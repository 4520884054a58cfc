import CiHarness.CommandLine.Invocation
import Mathlib.Data.List.Basic

/-!
# Flags in front of a command line

A flag may be given once at each level, so it can be put in front of a command line whose first
level does without it. What is understood then is the same but for the flag: it is carried through
the reading of all other arguments and changes none of them. The main statements are
`ofArguments_verbose_cons` and `ofArguments_json_cons`.
-/
namespace CiHarness.CommandLine

namespace Given

/-- What is given after a flag. -/
def after (f : Flag) (g : Given) : Given := { g with flags := g.flags ++ [f] }

@[simp] theorem hasFlag_after (f f' : Flag) (g : Given) :
    (g.after f).hasFlag f' = (g.hasFlag f' || decide (f' = f)) := by simp [after, hasFlag]

@[simp] theorem value?_after (f : Flag) (s : Setting) (g : Given) :
    (g.after f).value? s = g.value? s := rfl

theorem addFlag_eq_ok_iff {g g' : Given} {f : Flag} :
    g.addFlag f = .ok g' ↔ g.hasFlag f = false ∧ { g with flags := f :: g.flags } = g' := by
  rw [addFlag]
  cases g.hasFlag f <;> simp

/-- What is added to a level does not mind the flag `f`: if it has not been given by then, it might
as well have been given in front. -/
def Carries (f : Flag) (add : Given → Except Stop Given) : Prop :=
  ∀ g g', add g = .ok g' → g'.hasFlag f = false → g.hasFlag f = false ∧
    add (g.after f) = .ok (g'.after f)

variable {f : Flag}

theorem carries_addFlag (f' : Flag) : Carries f (·.addFlag f') := by
  intro g g' h hf
  obtain ⟨hnew, rfl⟩ := addFlag_eq_ok_iff.mp h
  have hne : f ≠ f' := by
    rintro rfl
    simp [hasFlag] at hf
  have hg : g.hasFlag f = false := by simpa [hasFlag, hne] using hf
  refine ⟨hg, addFlag_eq_ok_iff.mpr ⟨?_, rfl⟩⟩
  rw [hasFlag_after, hnew, decide_eq_false hne.symm, Bool.or_false]

theorem carries_addSetting (s : Setting) (value : String) : Carries f (·.addSetting s value) := by
  intro g g' h hf
  simp only [addSetting] at h ⊢
  split_ifs at h with hempty hagain
  obtain rfl := Except.ok.inj h
  refine ⟨hf, ?_⟩
  rw [if_neg hempty]
  exact if_neg hagain

end Given

namespace Level

/-- A level that is read after a flag. -/
def after (f : Flag) (l : Level) : Level := { l with given := l.given.after f }

variable {f : Flag}

theorem settled_after {l : Level} {g : Given} (h : l.settled = .ok g) (hf : g.hasFlag f = false) :
    l.given.hasFlag f = false ∧ (l.after f).settled = .ok (g.after f) := by
  obtain ⟨given, pending⟩ := l
  cases pending with
  | none =>
    obtain rfl := Except.ok.inj h
    exact ⟨hf, rfl⟩
  | some setting => exact Given.carries_addSetting setting.1 setting.2 given g h hf

/-- What is read of a level does not mind the flag `f`. -/
def Carries (f : Flag) (read : Level → Except Stop Level) : Prop :=
  ∀ l l', read l = .ok l' → l'.given.hasFlag f = false →
    l.given.hasFlag f = false ∧ read (l.after f) = .ok (l'.after f)

theorem giving_eq_ok_iff {add : Given → Except Stop Given} {l l' : Level} :
    l.giving add = .ok l' ↔ ∃ g g', l.settled = .ok g ∧ add g = .ok g' ∧ ⟨g', none⟩ = l' := by
  rw [giving]
  cases l.settled with
  | error stop => simp
  | ok g => cases hadd : add g <;> simp [hadd, Except.map]

theorem carries_giving {add : Given → Except Stop Given} (hadd : Given.Carries f add) :
    Carries f (·.giving add) := by
  intro l l' h hf
  obtain ⟨g, g', hsettled, hadded, rfl⟩ := giving_eq_ok_iff.mp h
  obtain ⟨hg, hadded⟩ := hadd g g' hadded hf
  obtain ⟨hl, hsettled⟩ := settled_after hsettled hg
  exact ⟨hl, giving_eq_ok_iff.mpr ⟨g.after f, g'.after f, hsettled, hadded, rfl⟩⟩

theorem carries_takeWord (scope : Scope) (word : Word) : Carries f (·.takeWord scope word) := by
  -- A request for a text, or a setting without a value, stops the reading.
  have hstop (stop : Stop) : Given.Carries f fun _ => .error stop := by
    intro g g' h
    simp at h
  cases word with
  | flag f' => exact carries_giving (Given.carries_addFlag f')
  | help => exact carries_giving (hstop _)
  | version => exact carries_giving (hstop _)
  | setting s =>
    intro l l' h
    simp [takeWord] at h

theorem carries_takeLetters (scope : Scope) (cs : List Char) :
    Carries f (takeLetters scope cs) := by
  induction cs with
  | nil =>
    intro l l' h hf
    obtain rfl : l = l' := by simpa [takeLetters] using h
    exact ⟨hf, rfl⟩
  | cons c cs ih =>
    intro l l' h hf
    simp only [takeLetters] at h ⊢
    cases hword : Word.ofLetter? scope c with
    | none => simp [hword] at h
    | some word =>
      cases htaken : l.takeWord scope word with
      | error stop => simp [hword, htaken] at h
      | ok next =>
        simp only [hword, htaken] at h
        obtain ⟨hnext, hletters⟩ := ih next l' h hf
        obtain ⟨hl, htaken⟩ := carries_takeWord scope word l next htaken hnext
        exact ⟨hl, by simp [htaken, hletters]⟩

/-- The arguments in front of the command are read alike after a flag that is not among them. -/
theorem read_after {args rest : List String} {l l' : Level} (h : read none args l = .ok (l', rest))
    (hf : l'.given.hasFlag f = false) :
    l.given.hasFlag f = false ∧ read none args (l.after f) = .ok (l'.after f, rest) := by
  fun_induction read none args l generalizing l'
  -- No argument is left, or a command is reached.
  case case1 l =>
    obtain ⟨rfl, rfl⟩ := Prod.mk.inj (Except.ok.inj h)
    exact ⟨hf, rfl⟩
  case case4 arg args l htoken _ =>
    obtain ⟨rfl, rfl⟩ := Prod.mk.inj (Except.ok.inj h)
    exact ⟨hf, by simp only [read, htoken]⟩
  -- One more argument is read: letters, a setting with its value in one argument or in two, or a
  -- flag.
  case case8 arg args l cs htoken next hletters ih =>
    obtain ⟨hnext, hread⟩ := ih h hf
    obtain ⟨hl, hletters⟩ := carries_takeLetters none cs l next hletters hnext
    exact ⟨hl, by simp only [read, htoken, hletters, hread]⟩
  case case10 arg args l name s value hword next hgiven htoken ih =>
    obtain ⟨hnext, hread⟩ := ih h hf
    obtain ⟨hl, hgiven⟩ := carries_giving (Given.carries_addSetting s value) l next hgiven hnext
    exact ⟨hl, by simp only [read, htoken, hword, hgiven, hread]⟩
  case case13 arg l name s hword value args hplain g hsettled htoken ih =>
    obtain ⟨hg, hread⟩ := ih h hf
    obtain ⟨hl, hsettled⟩ := settled_after hsettled hg
    have hread : read none args ⟨g.after f, some (s, value)⟩ = .ok (l'.after f, rest) := hread
    exact ⟨hl, by simp only [read, htoken, hword, hplain, if_pos, hsettled, hread]⟩
  case case16 arg args l name word hsetting hword next htaken htoken ih =>
    obtain ⟨hnext, hread⟩ := ih h hf
    obtain ⟨hl, htaken⟩ := carries_takeWord none word l next htaken hnext
    refine ⟨hl, ?_⟩
    cases word with
    | setting s => exact absurd rfl (hsetting s)
    | _ => simp only [read, htoken, hword, htaken, hread]
  -- Everything else stops the reading.
  all_goals contradiction

/-- The end of a level is not a matter of flags. -/
theorem closed_after {env : Environment} {l : Level} {g : Given} (h : l.closed env = .ok g)
    (hf : g.hasFlag f = false) :
    l.given.hasFlag f = false ∧ (l.after f).closed env = .ok (g.after f) := by
  simp only [closed] at h ⊢
  cases hsettled : l.settled with
  | error stop => simp [hsettled] at h
  | ok g' =>
    simp only [hsettled] at h
    split_ifs at h with hempty
    obtain rfl := Except.ok.inj h
    obtain ⟨hl, hsettled⟩ := settled_after hsettled hf
    refine ⟨hl, ?_⟩
    rw [hsettled]
    exact if_neg hempty

end Level

theorem bind_eq_ok_iff {ε α β : Type} {x : Except ε α} {k : α → Except ε β} {b : β} :
    x >>= k = .ok b ↔ ∃ a, x = .ok a ∧ k a = .ok b := by
  cases x with
  | error e => simp [bind, Except.bind]
  | ok a => simp [bind, Except.bind]

namespace Invocation

/-- An invocation with other wishes for the log. -/
def logging (i : Invocation) (verbose json : Bool) : Invocation :=
  { i with verbose := verbose, json := json }

/-- A command is understood if both of its levels are, and with what was given after it its task. -/
theorem ofCommand_eq_ok_iff {env : Environment} {outer : Level} {v : Verb} {args : List String}
    {i : Invocation} :
    ofCommand env outer v args = .ok i ↔ ∃ read inner task outer',
      Level.read (some v) args .fresh = .ok read ∧
      read.1.closed env = .ok inner ∧ taskOf v inner = .ok task ∧ outer.closed env = .ok outer' ∧
      combine env outer' inner task = i := by
  simp only [ofCommand, bind_eq_ok_iff, pure, Except.pure, Except.ok.injEq]
  constructor
  · rintro ⟨read, hread, inner, hinner, task, htask, outer', houter, hi⟩
    exact ⟨read, inner, task, outer', hread, hinner, htask, houter, hi⟩
  · rintro ⟨read, inner, task, outer', hread, hinner, htask, houter, hi⟩
    exact ⟨read, hread, inner, hinner, task, htask, outer', houter, hi⟩

/-- Arguments are understood if they have a command, and that is understood. -/
theorem ofArguments_eq_ok_iff {env : Environment} {args : List String} {i : Invocation} :
    ofArguments env args = .ok i ↔ ∃ outer word rest v,
      Level.read none args .fresh = .ok (outer, word :: rest) ∧
      word ≠ "help" ∧ Verb.ofWord? word = some v ∧ ofCommand env outer v rest = .ok i := by
  simp only [ofArguments, bind_eq_ok_iff]
  constructor
  · rintro ⟨⟨outer, rest⟩, hread, h⟩
    cases rest with
    | nil => cases h
    | cons word rest =>
      simp only at h
      split_ifs at h with hhelp
      cases hverb : Verb.ofWord? word with
      | none =>
        rw [hverb] at h
        cases h
      | some v =>
        rw [hverb] at h
        exact ⟨outer, word, rest, v, hread, hhelp, hverb, h⟩
  · rintro ⟨outer, word, rest, v, hread, hhelp, hverb, h⟩
    exact ⟨(outer, word :: rest), hread, by simp only [if_neg hhelp, hverb, h]⟩

/-- A flag can be put in front of a command line whose first level does without it, and is then
given in addition to all that was given. -/
theorem ofArguments_cons {env : Environment} {args : List String} {i : Invocation}
    (h : ofArguments env args = .ok i) :
    ∃ outer inner task, i = combine env outer inner task ∧
      ∀ (f : Flag) (arg : String), outer.hasFlag f = false →
        Level.read none (arg :: args) .fresh = Level.read none args (Level.fresh.after f) →
        ofArguments env (arg :: args) = .ok (combine env (outer.after f) inner task) := by
  obtain ⟨level, word, rest, v, hread, hhelp, hverb, hcommand⟩ := ofArguments_eq_ok_iff.mp h
  obtain ⟨read, inner, task, outer, hinner, hclosed, htask, houter, hi⟩ :=
    ofCommand_eq_ok_iff.mp hcommand
  refine ⟨outer, inner, task, hi.symm, fun f arg hf harg => ?_⟩
  obtain ⟨hlevel, houter⟩ := Level.closed_after houter hf
  obtain ⟨-, hread⟩ := Level.read_after hread hlevel
  exact ofArguments_eq_ok_iff.mpr ⟨level.after f, word, rest, v, harg.trans hread, hhelp, hverb,
    ofCommand_eq_ok_iff.mpr ⟨read, inner, task, outer.after f, hinner, hclosed, htask, houter, rfl⟩⟩

/-- **In front of a command line without it, `--verbose` asks for details and for nothing else.** -/
theorem ofArguments_verbose_cons {env : Environment} {args : List String} {i : Invocation}
    (h : ofArguments env args = .ok i) (hquiet : i.verbose = false) :
    ofArguments env ("--verbose" :: args) = .ok (i.logging true i.json) := by
  obtain ⟨outer, inner, task, rfl, hcons⟩ := ofArguments_cons h
  have houter : outer.hasFlag .verbose = false := (Bool.or_eq_false_iff.mp hquiet).2
  rw [hcons .verbose "--verbose" houter rfl]
  simp [combine, logging]

/-- **In front of a command line without it, `--json` asks for another form of the log and for
nothing else.** -/
theorem ofArguments_json_cons {env : Environment} {args : List String} {i : Invocation}
    (h : ofArguments env args = .ok i) (hplain : i.json = false) :
    ofArguments env ("--json" :: args) = .ok (i.logging i.verbose true) := by
  obtain ⟨outer, inner, task, rfl, hcons⟩ := ofArguments_cons h
  have houter : outer.hasFlag .json = false := (Bool.or_eq_false_iff.mp hplain).2
  rw [hcons .json "--json" houter rfl]
  simp [combine, logging]

end Invocation

end CiHarness.CommandLine

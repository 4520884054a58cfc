import CiHarness.Proofs.Step.Selection
import CiHarness.Proofs.Text.Blank
import CiHarness.Proofs.Text.Pieces

/-!
# Names of steps

Every step has a name of its own, and a text is read as a step exactly if it is the name of that
step with nothing but blanks around it. Names are made of small letters and underscores with at most
one colon, which stands between two words; a text that strays from this is refused, and the refusal
carries the text as it was given. The main statement is `read_iff_padded_name`.
-/
namespace CiHarness

/-- A scenario is found by its name and by no other text. -/
theorem Scenario.ofName?_eq_some_iff {text : String} {s : Scenario} :
    ofName? text = some s ↔ text = s.name := by
  constructor
  · intro h
    have hname := List.find?_some h
    exact (beq_iff_eq.mp hname).symm
  · rintro rfl
    cases s <;> decide

namespace Step

/-- The characters that names are made of. -/
def isNameChar (c : Char) : Bool := ('a' ≤ c && c ≤ 'z') || c == '_' || c == ':'

theorem isBlank_of_isNameChar {c : Char} (h : isNameChar c = true) : Text.isBlank c = false := by
  simp only [isNameChar, Bool.or_eq_true, Bool.and_eq_true, decide_eq_true_eq, beq_iff_eq] at h
  obtain (⟨hfirst, hlast⟩ | rfl) | rfl := h
  · have hrange : 97 ≤ c.toNat ∧ c.toNat ≤ 122 :=
      ⟨UInt32.le_iff_toNat_le.mp hfirst, UInt32.le_iff_toNat_le.mp hlast⟩
    exact Text.isBlank_of_visible (by omega) (by omega)
  · decide
  · decide

theorem isNameChar_of_mem_name {step : Step} {c : Char} (h : c ∈ step.name.toList) :
    isNameChar c = true := by
  have hall : ∀ step ∈ Step.all, step.name.toList.all isNameChar = true := by decide
  exact List.all_eq_true.mp (hall step step.mem_all) c h

theorem isTight_name (step : Step) : Text.IsTight step.name :=
  Text.isTight_of_forall fun _ hc => isBlank_of_isNameChar (isNameChar_of_mem_name hc)

/-- The ways in which a text strays from all names: by a blank, by the case of its letters, by any
other character that stands in no name, by a second colon, and by nothing after the colon. -/
inductive Strays (text : String) : Prop
  | blank (c : Char) (hc : c ∈ text.toList) (hblank : Text.isBlank c = true)
  | otherCase (step : Step) (hlower : text.toList.map Char.toLower = step.name.toList)
    (hne : text ≠ step.name)
  | foreign (c : Char) (hc : c ∈ text.toList) (hforeign : isNameChar c = false)
  | colons (h : 2 ≤ text.toList.count ':')
  | noScenario (kind : String) (h : text = kind ++ ":")

/-- A text that strays is the name of no step. -/
theorem Strays.ne_name {text : String} (h : Strays text) (step : Step) : text ≠ step.name := by
  rintro rfl
  cases h with
  | blank c hc hblank => simp [isBlank_of_isNameChar (isNameChar_of_mem_name hc)] at hblank
  | otherCase other hlower hne =>
    have hall : ∀ step ∈ Step.all, step.name.toList.map Char.toLower = step.name.toList := by decide
    rw [hall step step.mem_all, String.toList_inj] at hlower
    exact hne hlower
  | foreign c hc hforeign => simp [isNameChar_of_mem_name hc] at hforeign
  | colons h =>
    have hall : ∀ step ∈ Step.all, step.name.toList.count ':' < 2 := by decide
    exact absurd h (Nat.not_le.mpr (hall step step.mem_all))
  | noScenario kind h =>
    have hall : ∀ step ∈ Step.all, step.name.toList.getLast? ≠ some ':' := by decide
    exact hall step step.mem_all (by simp [h, String.toList_append])

/-- A step is found by its name and by no other text. -/
theorem ofExactName?_eq_some_iff {text : String} {step : Step} :
    ofExactName? text = some step ↔ text = step.name := by
  constructor
  · intro h
    rw [ofExactName?] at h
    split_ifs at h with hfmt hclippy htest hbuild
    · obtain rfl := Option.some.inj h
      exact hfmt
    · obtain rfl := Option.some.inj h
      exact hclippy
    · obtain rfl := Option.some.inj h
      exact htest
    · obtain rfl := Option.some.inj h
      exact hbuild
    · split at h
      · next scenario hsplit =>
        obtain ⟨s, hs, rfl⟩ := Option.map_eq_some_iff.mp h
        rw [Text.eq_of_splitOnce hsplit, Scenario.ofName?_eq_some_iff.mp hs, name]
        rfl
      · next scenario hsplit =>
        obtain ⟨s, hs, rfl⟩ := Option.map_eq_some_iff.mp h
        rw [Text.eq_of_splitOnce hsplit, Scenario.ofName?_eq_some_iff.mp hs, name]
        rfl
      · cases h
  · rintro rfl
    have hall : ∀ step ∈ Step.all, ofExactName? step.name = some step := by decide
    exact hall step step.mem_all

/-- A text is read as a step if its core is the name of the step. -/
theorem ofName_eq_ok_iff {s : String} {step : Step} :
    ofName s = .ok step ↔ Text.trim s = step.name := by
  rw [← ofExactName?_eq_some_iff, ofName]
  cases ofExactName? (Text.trim s) <;> simp

theorem ofName_name (step : Step) : ofName step.name = .ok step :=
  ofName_eq_ok_iff.mpr ((Text.IsPadded.refl _).trim_eq step.isTight_name)

/-- Every other text is refused with all that was given. -/
theorem ofName_of_ne {s : String} (h : ∀ step : Step, Text.trim s ≠ step.name) :
    ofName s = .error (.unknownStep s) :=
  ofName_of_not_isName fun ⟨step, hstep⟩ => h step (ofName_eq_ok_iff.mp hstep)

/-- **A text is read as a step exactly if it is the name of the step with blanks around it.** Every
other text is refused, with the text as it was given; so is each text that strays from all names by
a blank inside, by the case of its letters, by a colon too many or by a missing scenario. No two
steps have the same name, and every step is read back from its own. -/
theorem read_iff_padded_name :
    (∀ (s : String) (step : Step), ofName s = .ok step ↔ Text.trim s = step.name) ∧
    (∀ (s : String) (step : Step), ofName s = .ok step ↔ Text.IsPadded step.name s) ∧
    (∀ s : String, (∀ step : Step, Text.trim s ≠ step.name) → ofName s = .error (.unknownStep s)) ∧
    (∀ s : String, Strays (Text.trim s) → ofName s = .error (.unknownStep s)) ∧
    Function.Injective name ∧
    ∀ step : Step, ofName step.name = .ok step := by
  refine ⟨fun s step => ofName_eq_ok_iff, ?padded, fun s => ofName_of_ne, ?strays, ?injective,
    ofName_name⟩
  case padded =>
    intro s step
    rw [ofName_eq_ok_iff, Text.trim_eq_iff]
    exact and_iff_left step.isTight_name
  case strays => exact fun s h => ofName_of_ne h.ne_name
  case injective =>
    intro step other hname
    have hstep : ofName step.name = .ok other := hname ▸ other.ofName_name
    rw [ofName_name] at hstep
    exact Except.ok.inj hstep

/-- A simulation is read past the blanks around its name; a blank inside the name is refused with
all blanks. -/
theorem read_iff_padded_name_of_simulation :
    ofName "\u2003sim:fsm\n" = .ok (.simulate .fsm) ∧
      ofName "\u2003sim: fsm\n" = .error (.unknownStep "\u2003sim: fsm\n") := by
  obtain ⟨-, hpadded, -, hstrays, -, -⟩ := read_iff_padded_name
  have hname : Text.IsPadded (Step.simulate .fsm).name "\u2003sim:fsm\n" :=
    .of_chars '\u2003' '\n' (by decide) (by decide) (by decide)
  exact ⟨(hpadded _ _).mpr hname, hstrays _ (.blank ' ' (by decide) (by decide))⟩

end Step

end CiHarness

import CiHarness.Json.Printer
import CiHarness.Run.RunId
import Mathlib.Data.List.Basic
import Mathlib.Data.Fintype.Basic
import Mathlib.Tactic.FinCases

/-!
# The words of a JSON text

A JSON text is read by a machine that takes one character after another: between words it passes
over blanks, marks are words by themselves, a text goes up to its closing quote, and anything else
goes on up to the next mark, blank or quote. What the machine takes is read as in any JSON text, but
it takes less than there is: no number with an exponent, and no character that is escaped as a pair.

What is written for a text or a number is the one word that says so. The main statements are
`spells_quote` and `spells_writeNumber`.
-/
namespace CiHarness.Json

/-- A word of a JSON text: a mark of its structure, or a value without parts. -/
inductive Lexeme where
  | mark (c : Char)
  | scalar (v : Json)

/-- The marks of an array or an object. -/
def marks : List Char := ['[', ']', '\x7b', '\x7d', ',', ':']

/-- What may stand between two words. -/
def blanks : List Char := [' ', '\n', '\t', '\r']

/-- A character that ends a word without quotes. -/
def isDelimiter (c : Char) : Bool := marks.contains c || blanks.contains c || c = '"'

/-- The characters that are escaped by a letter or a mark, each by the one it stands for. -/
def escapes : List (Char × Char) :=
  [('"', '"'), ('\\', '\\'), ('/', '/'), ('b', '\x08'), ('f', '\x0c'), ('n', '\n'), ('r', '\r'),
    ('t', '\t')]

/-- The character of four hexadecimal digits; half of a pair is none. -/
def coded? (digits : List Char) : Option Char :=
  (digits.mapM RunId.digit?).bind fun ds =>
    let code := ds.foldl (fun n d => 16 * n + d.val) 0
    if code.isValidChar then some (Char.ofNat code) else none

/-- The digits and the count of decimal places of a number without sign. No zero stands needlessly
in front, and where there is a point there are decimals. -/
def unsigned? (cs : List Char) : Option (Nat × Nat) :=
  let whole := cs.takeWhile Char.isDigit
  let rest := cs.dropWhile Char.isDigit
  if whole = [] ∨ whole.head? = some '0' ∧ whole.length ≠ 1 then none
  else if rest = [] then some (Nat.ofDigitChars 10 whole 0, 0)
  else if rest.head? = some '.' ∧ rest.tail ≠ [] ∧ rest.tail.all Char.isDigit then
    some (Nat.ofDigitChars 10 (whole ++ rest.tail) 0, rest.tail.length)
  else none

/-- A number, with or without a sign. -/
def number? (cs : List Char) : Option Json :=
  if cs.head? = some '-' then (unsigned? cs.tail).map fun u => .number (-u.1) u.2
  else (unsigned? cs).map fun u => .number u.1 u.2

/-- The value of a word without quotes. -/
def bare? (cs : List Char) : Option Json :=
  if cs = "null".toList then some .null
  else if cs = "true".toList then some (.bool true)
  else if cs = "false".toList then some (.bool false)
  else number? cs

namespace Scanner

/-- Where the machine stands: between words, or in a word of which it has seen a part. -/
inductive Mode where
  | between
  | bare (seen : List Char)
  | quoted (seen : List Char)
  | escaped (seen : List Char)
  | coded (seen digits : List Char)

end Scanner

/-- The words up to some place of a text, and what the machine is in there. -/
structure Scanner where
  words : List Lexeme
  mode : Scanner.Mode

namespace Scanner

/-- A word without quotes is over. -/
def settled : Scanner → Option Scanner
  | ⟨words, .between⟩ => some ⟨words, .between⟩
  | ⟨words, .bare seen⟩ => (bare? seen).map fun v => ⟨words ++ [.scalar v], .between⟩
  | _ => none

/-- A character is taken after some words. -/
def takeAfter (words : List Lexeme) (c : Char) : Scanner :=
  if marks.contains c then ⟨words ++ [.mark c], .between⟩
  else if blanks.contains c then ⟨words, .between⟩
  else if c = '"' then ⟨words, .quoted []⟩
  else ⟨words, .bare [c]⟩

/-- A character is taken. -/
def take (s : Scanner) (c : Char) : Option Scanner :=
  match s.mode with
  | .between => some (takeAfter s.words c)
  | .bare seen =>
    if isDelimiter c then s.settled.map fun s => takeAfter s.words c
    else some ⟨s.words, .bare (seen ++ [c])⟩
  | .quoted seen =>
    if c = '"' then some ⟨s.words ++ [.scalar (.text (String.ofList seen))], .between⟩
    else if c = '\\' then some ⟨s.words, .escaped seen⟩
    else if c.toNat < 0x20 then none
    else some ⟨s.words, .quoted (seen ++ [c])⟩
  | .escaped seen =>
    if c = 'u' then some ⟨s.words, .coded seen []⟩
    else (escapes.lookup c).map fun d => ⟨s.words, .quoted (seen ++ [d])⟩
  | .coded seen digits =>
    if digits.length < 3 then some ⟨s.words, .coded seen (digits ++ [c])⟩
    else (coded? (digits ++ [c])).map fun d => ⟨s.words, .quoted (seen ++ [d])⟩

end Scanner

/-- The words of a text. -/
def lexemes? (cs : List Char) : Option (List Lexeme) :=
  (cs.foldlM Scanner.take ⟨[], .between⟩).bind fun s => s.settled.map (·.words)

/-- Some characters are those of some words, whatever words stand in front of them. -/
def Spells (cs : List Char) (ws : List Lexeme) : Prop :=
  ∀ words, ∃ s, cs.foldlM Scanner.take ⟨words, .between⟩ = some s ∧
    s.settled = some ⟨words ++ ws, .between⟩

theorem Spells.lexemes?_eq {cs : List Char} {ws : List Lexeme} (h : Spells cs ws) :
    lexemes? cs = some ws := by
  obtain ⟨s, hscan, hsettled⟩ := h []
  rw [lexemes?, hscan, Option.bind_some, hsettled]
  rfl

/-! ## One word after another -/

namespace Scanner

theorem take_between (words : List Lexeme) (c : Char) :
    take ⟨words, .between⟩ c = some (takeAfter words c) := rfl

/-- At a delimiter it is all the same whether a word without quotes was over before. -/
theorem take_of_settled {s t : Scanner} (h : s.settled = some t) {c : Char}
    (hc : isDelimiter c = true) : s.take c = t.take c := by
  obtain ⟨words, mode⟩ := s
  cases mode with
  | between =>
    obtain rfl := Option.some.inj h
    rfl
  | bare seen =>
    obtain ⟨v, hv, rfl⟩ := Option.map_eq_some_iff.mp h
    simp [take, settled, hc, hv]
  | quoted | escaped | coded => cases h

end Scanner

namespace Spells

theorem nil : Spells [] [] := fun words => ⟨⟨words, .between⟩, rfl, by simp [Scanner.settled]⟩

variable {cs ds : List Char} {ws us : List Lexeme}

/-- A mark is a word by itself. -/
theorem mark_cons {c : Char} (hc : c ∈ marks) (h : Spells cs ws) :
    Spells (c :: cs) (.mark c :: ws) := by
  intro words
  obtain ⟨s, hscan, hsettled⟩ := h (words ++ [.mark c])
  refine ⟨s, ?_, by simpa using hsettled⟩
  rw [List.foldlM_cons, Scanner.take_between, Scanner.takeAfter, if_pos (by simpa using hc)]
  exact hscan

/-- A blank is passed over. -/
theorem blank_cons {c : Char} (hc : c ∈ blanks) (h : Spells cs ws) : Spells (c :: cs) ws := by
  intro words
  obtain ⟨s, hscan, hsettled⟩ := h words
  have hmark : marks.contains c = false := by
    have hall : blanks.all (fun c => !marks.contains c) = true := rfl
    simpa using List.all_eq_true.mp hall c hc
  refine ⟨s, ?_, hsettled⟩
  rw [List.foldlM_cons, Scanner.take_between, Scanner.takeAfter, hmark, if_neg Bool.false_ne_true,
    if_pos (by simpa using hc)]
  exact hscan

theorem blanks_append {bs : List Char} (hbs : ∀ c ∈ bs, c ∈ blanks) (h : Spells cs ws) :
    Spells (bs ++ cs) ws := by
  induction bs with
  | nil => exact h
  | cons c bs ih =>
    exact blank_cons (hbs c List.mem_cons_self) (ih fun d hd => hbs d (List.mem_cons_of_mem c hd))

/-- What goes on with a delimiter can be read on by itself. -/
theorem append {c : Char} (hc : isDelimiter c = true) (h : Spells cs ws)
    (h' : Spells (c :: ds) us) : Spells (cs ++ c :: ds) (ws ++ us) := by
  intro words
  obtain ⟨s, hscan, hsettled⟩ := h words
  obtain ⟨t, hscan', hsettled'⟩ := h' (words ++ ws)
  refine ⟨t, ?_, by rwa [← List.append_assoc]⟩
  rw [List.foldlM_append, hscan, Option.bind_eq_bind, Option.bind_some]
  rw [List.foldlM_cons] at hscan' ⊢
  rwa [Scanner.take_of_settled hsettled hc]

end Spells

/-! ## Texts -/

theorem toList_quote (s : String) :
    (quote s).toList = '"' :: (s.toList.flatMap (fun c => (escapeChar c).toList) ++ ['"']) := by
  have hfold (cs : List Char) (out : String) :
      (cs.foldl (fun out c => out ++ escapeChar c) out).toList =
        out.toList ++ cs.flatMap fun c => (escapeChar c).toList := by
    induction cs generalizing out with
    | nil => simp
    | cons c cs ih => simp [ih, String.toList_append]
  simp [quote, String.foldl_eq_foldl_toList, hfold, String.toList_append]

namespace Scanner

/-- Inside of quotes, what is written for a character is read as that character. -/
theorem foldlM_escapeChar (c : Char) (words : List Lexeme) (seen : List Char) :
    (escapeChar c).toList.foldlM take ⟨words, .quoted seen⟩ =
      some ⟨words, .quoted (seen ++ [c])⟩ := by
  by_cases hcontrol : c.toNat < 0x20
  · -- Some controls have a letter of their own, so each of them is read by itself.
    have hall : ∀ n : Fin 0x20,
        (escapeChar (Char.ofNat n)).toList.foldlM take ⟨words, .quoted seen⟩ =
          some ⟨words, .quoted (seen ++ [Char.ofNat n])⟩ := by
      intro n
      fin_cases n <;> rfl
    have hc := hall ⟨c.toNat, hcontrol⟩
    rwa [Char.ofNat_toNat] at hc
  · by_cases hquote : c = '"'
    · subst hquote
      rfl
    · by_cases hbackslash : c = '\\'
      · subst hbackslash
        rfl
      · have hplain : escapeChar c = c.toString := by
          have hne (d : Char) (hd : d.toNat < 0x20) : c ≠ d := by
            rintro rfl
            exact hcontrol hd
          simp [escapeChar, hquote, hbackslash, hcontrol, hne]
        simp [hplain, take, hquote, hbackslash, hcontrol]

theorem foldlM_flatMap_escapeChar (cs : List Char) (words : List Lexeme) (seen : List Char) :
    (cs.flatMap fun c => (escapeChar c).toList).foldlM take ⟨words, .quoted seen⟩ =
      some ⟨words, .quoted (seen ++ cs)⟩ := by
  induction cs generalizing seen with
  | nil => simp
  | cons c cs ih =>
    rw [List.flatMap_cons, List.foldlM_append, foldlM_escapeChar, Option.bind_eq_bind,
      Option.bind_some, ih]
    simp

end Scanner

/-- **What is written for a text is one word, which says that text.** -/
theorem spells_quote (s : String) : Spells (quote s).toList [.scalar (.text s)] := by
  intro words
  refine ⟨⟨words ++ [.scalar (.text s)], .between⟩, ?_, rfl⟩
  have hopen : Scanner.take ⟨words, .between⟩ '"' = some ⟨words, .quoted []⟩ := rfl
  have hclose : Scanner.take ⟨words, .quoted s.toList⟩ '"' =
      some ⟨words ++ [.scalar (.text s)], .between⟩ := by
    simp [Scanner.take]
  rw [toList_quote, List.foldlM_cons, hopen, Option.bind_eq_bind, Option.bind_some,
    List.foldlM_append, Scanner.foldlM_flatMap_escapeChar]
  simpa using hclose

/-! ## Words without quotes -/

/-- Characters without a delimiter are one word, if there is a value of that name. -/
theorem spells_bare {cs : List Char} {v : Json} (hcs : cs.any isDelimiter = false)
    (hv : bare? cs = some v) : Spells cs [.scalar v] := by
  intro words
  have hscan (ds seen : List Char) (hds : ds.any isDelimiter = false) :
      ds.foldlM Scanner.take ⟨words, .bare seen⟩ = some ⟨words, .bare (seen ++ ds)⟩ := by
    induction ds generalizing seen with
    | nil => simp
    | cons d ds ih =>
      obtain ⟨hd, hds⟩ := Bool.or_eq_false_iff.mp hds
      have htake : Scanner.take ⟨words, .bare seen⟩ d = some ⟨words, .bare (seen ++ [d])⟩ := by
        simp [Scanner.take, hd]
      rw [List.foldlM_cons, htake, Option.bind_eq_bind, Option.bind_some, ih _ hds]
      simp
  cases cs with
  | nil => cases hv
  | cons c cs =>
    obtain ⟨hc, hcs⟩ := Bool.or_eq_false_iff.mp hcs
    have hfirst : Scanner.takeAfter words c = ⟨words, .bare [c]⟩ := by
      simp only [isDelimiter, Bool.or_eq_false_iff, decide_eq_false_iff_not] at hc
      rw [Scanner.takeAfter, hc.1.1, hc.1.2, if_neg Bool.false_ne_true, if_neg Bool.false_ne_true,
        if_neg hc.2]
    refine ⟨⟨words, .bare (c :: cs)⟩, ?_, by simp [Scanner.settled, hv]⟩
    rw [List.foldlM_cons, Scanner.take_between, hfirst]
    exact hscan cs [c] hcs

theorem spells_null : Spells "null".toList [.scalar .null] := spells_bare rfl rfl

theorem spells_true : Spells "true".toList [.scalar (.bool true)] := spells_bare rfl rfl

theorem spells_false : Spells "false".toList [.scalar (.bool false)] := spells_bare rfl rfl

/-! ## Numbers -/

/-- Only the digits of zero begin with a zero. -/
theorem head?_toDigits_ne {n : Nat} (hn : n ≠ 0) : (Nat.toDigits 10 n).head? ≠ some '0' := by
  induction n using Nat.strongRecOn with
  | ind n ih =>
    rw [Nat.toDigits_eq_if (by decide)]
    split
    case isTrue hlt =>
      have hall : ∀ n < 10, n ≠ 0 → [n.digitChar].head? ≠ some '0' := by decide
      exact hall n hlt hn
    case isFalse hge =>
      rw [List.head?_append_of_ne_nil _ Nat.toDigits_ne_nil]
      exact ih (n / 10) (by omega) (by omega)

/-- The digits that are written for a number: one at least before its decimal places. -/
def writtenDigits (digits : Int) (places : Nat) : List Char :=
  List.replicate (places + 1 - (Nat.toDigits 10 digits.natAbs).length) '0' ++
    Nat.toDigits 10 digits.natAbs

section WrittenDigits

variable (digits : Int) (places : Nat)

theorem lt_length_writtenDigits : places < (writtenDigits digits places).length := by
  simp only [writtenDigits, List.length_append, List.length_replicate]
  omega

theorem isDigit_of_mem_writtenDigits {c : Char} (hc : c ∈ writtenDigits digits places) :
    c.isDigit = true := by
  rcases List.mem_append.mp hc with hzero | hdigit
  · rw [List.eq_of_mem_replicate hzero]
    rfl
  · exact Nat.isDigit_of_mem_toDigits (by decide) (by decide) hdigit

/-- The zeros in front do not count. -/
theorem ofDigitChars_writtenDigits :
    Nat.ofDigitChars 10 (writtenDigits digits places) 0 = digits.natAbs := by
  rw [writtenDigits, Nat.ofDigitChars_append, Nat.ofDigitChars_replicate_zero, Nat.mul_zero,
    Nat.ofDigitChars_ten_toDigits]

/-- A zero in front is the only digit before the decimal places. -/
theorem length_of_head?_writtenDigits (h : (writtenDigits digits places).head? = some '0') :
    (writtenDigits digits places).length = places + 1 := by
  rw [writtenDigits] at h ⊢
  by_cases hlong : places + 1 ≤ (Nat.toDigits 10 digits.natAbs).length
  · rw [Nat.sub_eq_zero_of_le hlong, List.replicate_zero, List.nil_append] at h ⊢
    by_cases hzero : digits.natAbs = 0
    · rw [hzero, Nat.toDigits_zero] at hlong ⊢
      simp at hlong ⊢
      omega
    · exact absurd h (head?_toDigits_ne hzero)
  · simp only [List.length_append, List.length_replicate]
    omega

/-- What is written for a number: a sign if it is negative, and its digits, with a point before
the decimal places if there are any. -/
theorem exists_toList_writeNumber_eq :
    ∃ whole decimals, writtenDigits digits places = whole ++ decimals ∧
      decimals.length = places ∧
      (writeNumber digits places).toList = (if digits < 0 then ['-'] else []) ++
        (whole ++ if decimals = [] then [] else '.' :: decimals) := by
  by_cases hplaces : places = 0
  · subst hplaces
    refine ⟨writtenDigits digits 0, [], by simp, rfl, ?_⟩
    have hlen : 1 ≤ (Nat.toDigits 10 digits.natAbs).length := Nat.length_toDigits_pos
    by_cases hneg : digits < 0
    · have habs : (-digits).toNat = digits.natAbs := by omega
      simp [writeNumber, writtenDigits, Nat.sub_eq_zero_of_le hlen, Int.repr_eq_if, hneg,
        Int.not_le.mpr hneg, habs]
    · have habs : digits.toNat = digits.natAbs := by omega
      simp [writeNumber, writtenDigits, Nat.sub_eq_zero_of_le hlen, Int.repr_eq_if, hneg,
        Int.not_lt.mp hneg, habs]
  · have hlen := lt_length_writtenDigits digits places
    let whole := (writtenDigits digits places).length - places
    refine ⟨(writtenDigits digits places).take whole, (writtenDigits digits places).drop whole,
      (List.take_append_drop _ _).symm, by rw [List.length_drop]; omega, ?_⟩
    have hsome : (writtenDigits digits places).drop whole ≠ [] := by
      rw [Ne, List.drop_eq_nil_iff]
      omega
    rw [if_neg hsome, writeNumber, if_neg hplaces]
    by_cases hneg : digits < 0 <;> simp [writtenDigits, whole, hneg, String.toList_append]

end WrittenDigits

/-- A number without sign is read from its parts. -/
theorem unsigned?_append {whole decimals : List Char} (hwhole : ∀ c ∈ whole, c.isDigit = true)
    (hne : whole ≠ []) (hzero : whole.head? = some '0' → whole.length = 1)
    (hdecimals : ∀ c ∈ decimals, c.isDigit = true) :
    unsigned? (whole ++ if decimals = [] then [] else '.' :: decimals) =
      some (Nat.ofDigitChars 10 (whole ++ decimals) 0, decimals.length) := by
  let rest := if decimals = [] then [] else '.' :: decimals
  have htake : (whole ++ rest).takeWhile Char.isDigit = whole := by
    have hnone : rest.takeWhile Char.isDigit = [] := by
      dsimp only [rest]
      split <;> rfl
    rw [List.takeWhile_append_of_pos hwhole, hnone, List.append_nil]
  have hdrop : (whole ++ rest).dropWhile Char.isDigit = rest := by
    have hall : rest.dropWhile Char.isDigit = rest := by
      dsimp only [rest]
      split <;> rfl
    rw [List.dropWhile_append_of_pos hwhole, hall]
  have hfront : ¬(whole = [] ∨ whole.head? = some '0' ∧ whole.length ≠ 1) := by
    rintro (h | ⟨h, hlen⟩)
    exacts [hne h, hlen (hzero h)]
  change unsigned? (whole ++ rest) = _
  simp only [unsigned?, htake, hdrop, if_neg hfront]
  by_cases hnone : decimals = []
  · simp [rest, hnone]
  · simpa [rest, hnone] using hdecimals

theorem number?_writeNumber (digits : Int) (places : Nat) :
    number? (writeNumber digits places).toList = some (.number digits places) := by
  obtain ⟨whole, decimals, hds, hplaces, hwritten⟩ := exists_toList_writeNumber_eq digits places
  have hdigit : ∀ c ∈ whole ++ decimals, c.isDigit = true := by
    intro c hc
    exact isDigit_of_mem_writtenDigits digits places (hds ▸ hc)
  have hlen : whole.length ≠ 0 := by
    have := lt_length_writtenDigits digits places
    rw [hds, List.length_append] at this
    omega
  have hne : whole ≠ [] := fun h => hlen (by rw [h, List.length_nil])
  have hzero (h : whole.head? = some '0') : whole.length = 1 := by
    rw [← List.head?_append_of_ne_nil whole hne, ← hds] at h
    have := length_of_head?_writtenDigits digits places h
    rw [hds, List.length_append] at this
    omega
  have hread := unsigned?_append (fun c hc => hdigit c (List.mem_append_left _ hc)) hne hzero
    fun c hc => hdigit c (List.mem_append_right _ hc)
  rw [← hds, ofDigitChars_writtenDigits, hplaces] at hread
  rw [hwritten]
  by_cases hneg : digits < 0
  · have habs : -(digits.natAbs : Int) = digits := by omega
    rw [if_pos hneg, List.singleton_append, number?, if_pos List.head?_cons,
      List.tail_cons, hread, Option.map_some, habs]
  · have habs : (digits.natAbs : Int) = digits := by omega
    have hsign : whole.head? ≠ some '-' := by
      intro h
      have hminus : Char.isDigit '-' = true :=
        hdigit '-' (List.mem_append_left _ (List.mem_of_mem_head? h))
      cases hminus
    rw [if_neg hneg, List.nil_append, number?, List.head?_append_of_ne_nil whole hne,
      if_neg hsign, hread, Option.map_some, habs]

/-- No digit ends a word. -/
theorem isDelimiter_of_isDigit {c : Char} (hc : c.isDigit = true) : isDelimiter c = false := by
  have hall : ('"' :: (marks ++ blanks)).all (fun d => !d.isDigit) = true := rfl
  rw [Bool.eq_false_iff]
  intro h
  have hmem : c ∈ '"' :: (marks ++ blanks) := by
    simpa [isDelimiter, or_comm, or_assoc] using h
  have hnone := List.all_eq_true.mp hall c hmem
  rw [hc] at hnone
  cases hnone

/-- **What is written for a number is one word, which says that number.** -/
theorem spells_writeNumber (digits : Int) (places : Nat) :
    Spells (writeNumber digits places).toList [.scalar (.number digits places)] := by
  have hnumber := number?_writeNumber digits places
  apply spells_bare
  · obtain ⟨whole, decimals, hds, -, hwritten⟩ := exists_toList_writeNumber_eq digits places
    have hdigits : (whole ++ decimals).any isDelimiter = false := by
      rw [List.any_eq_false]
      intro c hc
      have hdigit := isDigit_of_mem_writtenDigits digits places (hds ▸ hc)
      rw [isDelimiter_of_isDigit hdigit]
      exact Bool.false_ne_true
    have hsign : (if digits < 0 then ['-'] else []).any isDelimiter = false := by
      split <;> rfl
    rw [List.any_append, Bool.or_eq_false_iff] at hdigits
    rw [hwritten, List.any_append, List.any_append, hsign, hdigits.1, Bool.false_or, Bool.false_or]
    split
    · rfl
    · exact hdigits.2
  · have hne (name : List Char) (hname : number? name = none) :
        (writeNumber digits places).toList ≠ name := by
      intro h
      rw [h, hname] at hnumber
      cases hnumber
    rw [bare?, if_neg (hne _ rfl), if_neg (hne _ rfl), if_neg (hne _ rfl), hnumber]

end CiHarness.Json

import Mathlib.Data.List.Basic
import Mathlib.Data.List.Induction
import Mathlib.Data.List.TakeWhile
import Mathlib.Data.Nat.Digits.Defs
import InjectionPlan.Marker.Basic

/-! # Spellings of a lifetime

    A lifetime is asked for in a text, by its name or by the numeral of its tag, or in a
    number, by the tag itself.

    What a text may look like is said without the functions that read it:
    - `Trims`: a text is blanks, a trimmed text, and blanks again;
    - `Numeral`: an optional plus sign and a non-empty run of ASCII digits, with the
      value of the digits by their positions.

    Main statement: each text is read as the lifetime that it spells, and it is told apart
    whether a text that spells none is a numeral of one byte or anything else.  A number is
    read like its decimal text (`spellings_exact`).
-/

namespace InjectionPlan

/-! ### Trimmed texts -/

namespace Text

variable {cs ds t : List Char} {bound m n : Nat}

/-- The second text is left of the first when the blanks at both ends are cut off. -/
structure Trims (cs t : List Char) : Prop where
  /-- All that is cut off is blank. -/
  around : ∃ front back, cs = front ++ t ++ back ∧ ∀ c ∈ front ++ back, isBlank c = true
  /-- What is left does not begin with a blank. -/
  first : ∀ c ∈ t.head?, isBlank c = false
  /-- What is left does not end with a blank. -/
  last : ∀ c ∈ t.getLast?, isBlank c = false

theorem dropWhile_eq_self_of_head {p : Char → Bool} (h : ∀ c ∈ cs.head?, p c = false) :
    cs.dropWhile p = cs := by
  cases cs with
  | nil => rfl
  | cons c cs => exact List.dropWhile_cons_of_neg (by simp [h c rfl])

theorem trims_trimmed (cs : List Char) : Trims cs (trimmed cs) := by
  refine ⟨?_, ?_, ?_⟩
  · let rest := cs.dropWhile isBlank
    -- what is cut off at the end is what is cut off in front of the reversed text
    have hrest : rest = trimmed cs ++ (rest.reverse.takeWhile isBlank).reverse := by
      have hsplit := List.takeWhile_append_dropWhile (p := isBlank) (l := rest.reverse)
      have hreverse := congrArg List.reverse hsplit
      rw [List.reverse_append, List.reverse_reverse] at hreverse
      exact hreverse.symm
    refine ⟨cs.takeWhile isBlank, (rest.reverse.takeWhile isBlank).reverse, ?_, ?_⟩
    · rw [List.append_assoc, ← hrest, List.takeWhile_append_dropWhile]
    · intro c hc
      rcases List.mem_append.1 hc with hc | hc
      · exact List.mem_takeWhile_imp hc
      · exact List.mem_takeWhile_imp (List.mem_reverse.1 hc)
  · intro c hc
    have hne : trimmed cs ≠ [] := List.ne_nil_of_mem (List.mem_of_mem_head? hc)
    rw [← List.head_of_mem_head? hc]
    exact trimmed_head hne
  · intro c hc
    obtain ⟨hne, rfl⟩ := List.mem_getLast?_eq_getLast hc
    exact trimmed_last hne

/-- There is one way to trim a text. -/
theorem Trims.eq_trimmed (h : Trims cs t) : t = trimmed cs := by
  obtain ⟨front, back, rfl, hblank⟩ := h.around
  have hfront : ∀ c ∈ front, isBlank c = true := fun c hc =>
    hblank c (List.mem_append_left _ hc)
  have hback : ∀ c ∈ back, isBlank c = true := fun c hc => hblank c (List.mem_append_right _ hc)
  unfold trimmed
  rw [List.append_assoc, List.dropWhile_append_of_pos hfront]
  -- if nothing is left, the blanks at the end are cut off in front already
  by_cases ht : t = []
  · subst ht
    rw [List.nil_append, List.dropWhile_eq_nil_iff.2 hback]
    rfl
  · have hhead : (t ++ back).dropWhile isBlank = t ++ back := by
      apply dropWhile_eq_self_of_head
      intro c hc
      rw [List.head?_append_of_ne_nil _ ht] at hc
      exact h.first c hc
    have hlast : t.reverse.dropWhile isBlank = t.reverse := by
      apply dropWhile_eq_self_of_head
      intro c hc
      rw [List.head?_reverse] at hc
      exact h.last c hc
    have hback' : ∀ c ∈ back.reverse, isBlank c = true := fun c hc =>
      hback c (List.mem_reverse.1 hc)
    rw [hhead, List.reverse_append, List.dropWhile_append_of_pos hback', hlast,
      List.reverse_reverse]

/-- A text without blanks is trimmed already. -/
theorem trim_of_no_blanks {s : String} (h : ∀ c ∈ s.toList, isBlank c = false) : trim s = s := by
  have htrims : Trims s.toList s.toList := by
    refine ⟨⟨[], [], by simp, by simp⟩, ?_, ?_⟩
    · intro c hc
      exact h c (List.mem_of_mem_head? hc)
    · intro c hc
      exact h c (List.mem_of_mem_getLast? hc)
  rw [trim, ← htrims.eq_trimmed, String.ofList_toList]

/-! ### Numerals -/

/-- The number that a digit stands for. -/
def digit (c : Char) : Nat := c.toNat - '0'.toNat

/-- A non-empty run of ASCII digits and its value: the last digit counts ones, the one
before it tens, and so on. -/
structure Digits (ds : List Char) (n : Nat) : Prop where
  /-- There is a digit. -/
  nonempty : ds ≠ []
  /-- No other character stands among the digits. -/
  ascii : ∀ d ∈ ds, d.isDigit = true
  /-- The value. -/
  value : n = Nat.ofDigits 10 (ds.reverse.map digit)

/-- A run of digits with an optional plus sign, and its value. -/
inductive Numeral : List Char → Nat → Prop
  /-- There is no sign. -/
  | bare {ds : List Char} {n : Nat} : Digits ds n → Numeral ds n
  /-- There is a sign. -/
  | plus {ds : List Char} {n : Nat} : Digits ds n → Numeral ('+' :: ds) n

/-- Digits are read from the left, each time ten times what was read before. -/
theorem digitsValue_eq_ofDigits (ds : List Char) :
    digitsValue ds = Nat.ofDigits 10 (ds.reverse.map digit) := by
  induction ds using List.reverseRecOn with
  | nil => rfl
  | append_singleton ds d ih =>
    have hstep : digitsValue (ds ++ [d]) = 10 * digitsValue ds + digit d := by
      unfold digitsValue
      rw [List.foldl_append]
      rfl
    rw [hstep, ih, List.reverse_append, List.reverse_singleton, List.singleton_append,
      List.map_cons, Nat.ofDigits_cons]
    omega

theorem digits_iff : Digits ds n ↔ isDigits ds = true ∧ digitsValue ds = n := by
  rw [digitsValue_eq_ofDigits, isDigits, Bool.and_eq_true, Bool.not_eq_true',
    List.isEmpty_eq_false_iff, List.all_eq_true]
  constructor
  · intro h
    exact ⟨⟨h.nonempty, h.ascii⟩, h.value.symm⟩
  · rintro ⟨⟨hne, hds⟩, hn⟩
    exact ⟨hne, hds, hn.symm⟩

/-- The sign is no digit, so a text can be split in one way only. -/
theorem numeral_iff : Numeral cs n ↔ Digits (unsigned cs) n := by
  constructor
  · intro h
    cases h with
    | bare h =>
      have hsign : unsigned cs = cs := by
        unfold unsigned
        split
        · have := h.ascii '+' List.mem_cons_self
          cases this
        · rfl
      rwa [hsign]
    | plus h => exact h
  · intro h
    unfold unsigned at h
    split at h
    · exact .plus h
    · exact .bare h

theorem numeral?_eq_some_iff_numeral :
    numeral? bound cs = some n ↔ Numeral cs n ∧ n ≤ bound := by
  rw [numeral?_eq_some_iff, numeral_iff, digits_iff, and_assoc]

/-- A numeral has one value. -/
theorem Numeral.unique (hm : Numeral cs m) (hn : Numeral cs n) : m = n := by
  rw [numeral_iff] at hm hn
  rw [hm.value, hn.value]

/-- The decimal text of a number is a numeral of that number, unless the number is
negative. -/
theorem numeral_toString_iff {i : Int} : Numeral (toString i).toList n ↔ i = n := by
  cases i with
  | ofNat m =>
    have hm : Numeral (toString (Int.ofNat m)).toList m := by
      have htext : (toString (Int.ofNat m)).toList = Nat.toDigits 10 m := by
        show (Nat.repr m).toList = _
        rw [Nat.repr_eq_ofList_toDigits, String.toList_ofList]
      rw [htext]
      refine .bare ⟨Nat.toDigits_ne_nil, ?_, ?_⟩
      · intro d hd
        exact Nat.isDigit_of_mem_toDigits (by omega) (by omega) hd
      · rw [← digitsValue_eq_ofDigits]
        exact Nat.ofDigitChars_ten_toDigits.symm
    constructor
    · intro hn
      rw [hn.unique hm]
      rfl
    · intro h
      obtain rfl : m = n := by
        have : (m : Int) = n := h
        omega
      exact hm
  | negSucc m =>
    constructor
    · intro hn
      have htext : (toString (Int.negSucc m)).toList = '-' :: (Nat.repr (m + 1)).toList := by
        show ("-" ++ Nat.repr (m + 1)).toList = _
        rw [String.toList_append]
        rfl
      rw [htext, numeral_iff] at hn
      have := hn.ascii '-' List.mem_cons_self
      cases this
    · intro h
      cases h

/-- A decimal text is made of digits and perhaps a minus sign. -/
theorem isDigit_or_eq_minus {i : Int} {c : Char} (hc : c ∈ (toString i).toList) :
    c.isDigit = true ∨ c = '-' := by
  have digits (m : Nat) (hc : c ∈ (Nat.repr m).toList) : c.isDigit = true := by
    rw [Nat.repr_eq_ofList_toDigits, String.toList_ofList] at hc
    exact Nat.isDigit_of_mem_toDigits (by omega) (by omega) hc
  cases i with
  | ofNat m => exact .inl (digits m hc)
  | negSucc m =>
    have hc : c ∈ ("-" ++ Nat.repr (m + 1)).toList := hc
    rw [String.toList_append] at hc
    rcases List.mem_append.1 hc with hc | hc
    · exact .inr (List.mem_singleton.1 hc)
    · exact .inl (digits (m + 1) hc)

theorem trim_toString (i : Int) : trim (toString i) = toString i := by
  apply trim_of_no_blanks
  intro c hc
  rcases isDigit_or_eq_minus hc with h | rfl
  · have hlow : 48 ≤ c.toNat ∧ c.toNat ≤ 57 := by
      simpa [Char.isDigit, UInt32.le_iff_toNat_le] using h
    simp [isBlank, inTable, blankTable, CodeRange.holds]
    omega
  · rfl

end Text

open Text (Numeral Trims trim)

namespace Lifetime

variable {s t : String} {l : Lifetime} {n : Nat} {tag : UInt8}

/-! ### Names and tags -/

theorem ofName?_eq_some_iff : ofName? t = some l ↔ t = l.name := by
  constructor
  · intro h
    have hname := List.find?_some h
    exact (beq_iff_eq.1 hname).symm
  · rintro rfl
    exact ofName?_name l

theorem ofName?_eq_none_iff : ofName? t = none ↔ ∀ l : Lifetime, t ≠ l.name := by
  rw [Option.eq_none_iff_forall_ne_some]
  exact forall_congr' fun l => not_congr ofName?_eq_some_iff

/-- The tags are the numbers below three. -/
theorem exists_tag_or_le (tag : UInt8) : (∃ l : Lifetime, tag = l.tag) ∨ 3 ≤ tag.toNat := by
  by_cases h0 : tag = 0
  · exact .inl ⟨.transient, h0⟩
  by_cases h1 : tag = 1
  · exact .inl ⟨.perScope, h1⟩
  by_cases h2 : tag = 2
  · exact .inl ⟨.singleton, h2⟩
  rw [← UInt8.toNat_inj] at h0 h1 h2
  have h0 : tag.toNat ≠ 0 := h0
  have h1 : tag.toNat ≠ 1 := h1
  have h2 : tag.toNat ≠ 2 := h2
  exact .inr (by omega)

theorem tag_lt (l : Lifetime) : l.tag.toNat < 3 := by
  cases l <;> decide

theorem ofTag_of_le (h : 3 ≤ tag.toNat) : ofTag tag = .error (.tagOutOfRange tag) := by
  unfold ofTag
  rw [List.getElem?_eq_none h]

theorem ofTag_eq_ok_iff : ofTag tag = .ok l ↔ tag = l.tag := by
  constructor
  · intro h
    rcases exists_tag_or_le tag with ⟨l', rfl⟩ | hle
    · rw [ofTag_tag] at h
      cases h
      rfl
    · rw [ofTag_of_le hle] at h
      cases h
  · rintro rfl
    exact ofTag_tag l

theorem ofTag_eq_error_iff {e : LifetimeError} :
    ofTag tag = .error e ↔ 3 ≤ tag.toNat ∧ e = .tagOutOfRange tag := by
  constructor
  · intro h
    rcases exists_tag_or_le tag with ⟨l, rfl⟩ | hle
    · rw [ofTag_tag] at h
      cases h
    · rw [ofTag_of_le hle] at h
      cases h
      exact ⟨hle, rfl⟩
  · rintro ⟨hle, rfl⟩
    exact ofTag_of_le hle

/-- No name looks like a numeral: names begin with a letter. -/
theorem not_numeral_name (l : Lifetime) (n : Nat) : ¬ Numeral l.name.toList n := by
  intro h
  rw [Text.numeral_iff, Text.digits_iff] at h
  cases l <;> exact absurd h.1 (by decide)

/-! ### Reading a text -/

theorem parse_of_name (h : trim s = l.name) : parse s = .ok l := by
  unfold parse
  simp only [h, ofName?_name]

/-- A numeral of one byte is read as a tag. -/
theorem parse_of_numeral (h : Numeral (trim s).toList n) (hn : n ≤ 255) :
    parse s = ofTag (UInt8.ofNat n) := by
  have hname : ofName? (trim s) = none := by
    rw [ofName?_eq_none_iff]
    intro l hl
    rw [hl] at h
    exact not_numeral_name l n h
  have hnumeral : Text.numeral? 255 (trim s).toList = some n :=
    Text.numeral?_eq_some_iff_numeral.2 ⟨h, hn⟩
  unfold parse
  simp only [hname, hnumeral]

theorem parse_of_other (hname : ∀ l : Lifetime, trim s ≠ l.name)
    (hnumeral : ∀ n ≤ 255, ¬ Numeral (trim s).toList n) : parse s = .error (.unknown (trim s)) := by
  have hname : ofName? (trim s) = none := ofName?_eq_none_iff.2 hname
  have hnumeral : Text.numeral? 255 (trim s).toList = none := by
    rw [Option.eq_none_iff_forall_ne_some]
    intro n hn
    obtain ⟨h, hle⟩ := Text.numeral?_eq_some_iff_numeral.1 hn
    exact hnumeral n hle h
  unfold parse
  simp only [hname, hnumeral]

/-- Whatever the text, one of the three equations says how it is read. -/
theorem spelling_cases (t : String) :
    (∃ l : Lifetime, t = l.name) ∨ (∃ n ≤ 255, Numeral t.toList n) ∨
      (∀ l : Lifetime, t ≠ l.name) ∧ ∀ n ≤ 255, ¬ Numeral t.toList n := by
  by_cases hname : ∃ l : Lifetime, t = l.name
  · exact .inl hname
  by_cases hnumeral : ∃ n ≤ 255, Numeral t.toList n
  · exact .inr (.inl hnumeral)
  · refine .inr (.inr ⟨?_, ?_⟩)
    · intro l hl
      exact hname ⟨l, hl⟩
    · intro n hn h
      exact hnumeral ⟨n, hn, h⟩

theorem parse_eq_ok_iff :
    parse s = .ok l ↔ trim s = l.name ∨ Numeral (trim s).toList l.tag.toNat := by
  constructor
  · intro h
    rcases spelling_cases (trim s) with ⟨l', hname⟩ | ⟨n, hn, hnumeral⟩ | ⟨hname, hnumeral⟩
    · rw [parse_of_name hname] at h
      cases h
      exact .inl hname
    · rw [parse_of_numeral hnumeral hn, ofTag_eq_ok_iff] at h
      have htag : l.tag.toNat = n := by
        rw [← h, UInt8.toNat_ofNat_of_lt' (show n < 256 by omega)]
      exact .inr (htag ▸ hnumeral)
    · rw [parse_of_other hname hnumeral] at h
      cases h
  · rintro (hname | hnumeral)
    · exact parse_of_name hname
    · have hlt := l.tag_lt
      rw [parse_of_numeral hnumeral (by omega), UInt8.ofNat_toNat, ofTag_tag]

theorem parse_eq_tagOutOfRange_iff :
    parse s = .error (.tagOutOfRange tag) ↔ Numeral (trim s).toList tag.toNat ∧ 3 ≤ tag.toNat := by
  constructor
  · intro h
    rcases spelling_cases (trim s) with ⟨l, hname⟩ | ⟨n, hn, hnumeral⟩ | ⟨hname, hnumeral⟩
    · rw [parse_of_name hname] at h
      cases h
    · rw [parse_of_numeral hnumeral hn, ofTag_eq_error_iff] at h
      obtain ⟨hle, htag⟩ := h
      obtain rfl : tag = UInt8.ofNat n := LifetimeError.tagOutOfRange.inj htag
      have hvalue : (UInt8.ofNat n).toNat = n := UInt8.toNat_ofNat_of_lt' (show n < 256 by omega)
      exact ⟨hvalue.symm ▸ hnumeral, hle⟩
    · rw [parse_of_other hname hnumeral] at h
      cases h
  · rintro ⟨hnumeral, hle⟩
    have hlt : tag.toNat < 256 := tag.toNat_lt
    rw [parse_of_numeral hnumeral (by omega), UInt8.ofNat_toNat, ofTag_of_le hle]

theorem parse_eq_unknown_iff :
    parse s = .error (.unknown t) ↔
      t = trim s ∧ (∀ l : Lifetime, t ≠ l.name) ∧ ∀ n ≤ 255, ¬ Numeral t.toList n := by
  constructor
  · intro h
    rcases spelling_cases (trim s) with ⟨l, hname⟩ | ⟨n, hn, hnumeral⟩ | ⟨hname, hnumeral⟩
    · rw [parse_of_name hname] at h
      cases h
    · rw [parse_of_numeral hnumeral hn, ofTag_eq_error_iff] at h
      cases h.2
    · rw [parse_of_other hname hnumeral] at h
      cases h
      exact ⟨rfl, hname, hnumeral⟩
  · rintro ⟨rfl, hname, hnumeral⟩
    exact parse_of_other hname hnumeral

end Lifetime

/-! ### Reading a number -/

namespace Argument

open Lifetime

variable {l : Lifetime}

theorem toOption_eq_some_iff {r : Except LifetimeError Lifetime} :
    r.toOption = some l ↔ r = .ok l := by
  cases r <;> simp [Except.toOption]

/-- A decimal text is no name, so only its value counts. -/
theorem lifetime?_toString_iff {i : Int} :
    (text (toString i)).lifetime? = some l ↔ i = l.tag.toNat := by
  have hname : toString i ≠ l.name := by
    intro h
    have hletter : ∃ c ∈ l.name.toList, c.isDigit = false ∧ c ≠ '-' := by
      cases l with
      | transient => exact ⟨'T', by decide⟩
      | perScope => exact ⟨'S', by decide⟩
      | singleton => exact ⟨'S', by decide⟩
    obtain ⟨c, hc, hdigit, hminus⟩ := hletter
    rw [← h] at hc
    rcases Text.isDigit_or_eq_minus hc with hc | hc
    · rw [hdigit] at hc
      cases hc
    · exact hminus hc
  show (parse (toString i)).toOption = some l ↔ i = l.tag.toNat
  rw [toOption_eq_some_iff, parse_eq_ok_iff, Text.trim_toString, Text.numeral_toString_iff,
    or_iff_right hname]

theorem lifetime?_number_iff {n : Int64} :
    (number n).lifetime? = some l ↔ n.toInt = l.tag.toNat := by
  have hlt := l.tag_lt
  by_cases hn : 0 ≤ n.toInt ∧ n.toInt < 256
  · have hread : (number n).lifetime? = (ofTag (UInt8.ofNat n.toInt.toNat)).toOption := if_pos hn
    have hvalue : (UInt8.ofNat n.toInt.toNat).toNat = n.toInt.toNat :=
      UInt8.toNat_ofNat_of_lt' (show n.toInt.toNat < 256 by omega)
    rw [hread, toOption_eq_some_iff, ofTag_eq_ok_iff, ← UInt8.toNat_inj, hvalue]
    omega
  · have hread : (number n).lifetime? = none := if_neg hn
    rw [hread]
    constructor
    · intro h
      cases h
    · intro h
      omega

end Argument

/-- Let the blanks at both ends of a text be cut off.  The text is read as a lifetime
exactly if what is left is the name of the lifetime or a numeral of its tag.  It is
refused as a tag exactly if what is left is the numeral of a number from 3 to 255, and as
unknown, with what is left, in all other cases.  So a number is read like its decimal
text. -/
theorem Lifetime.spellings_exact :
    (∀ s : String,
      Trims s.toList (trim s).toList ∧
      (∀ l, parse s = .ok l ↔ trim s = l.name ∨ Numeral (trim s).toList l.tag.toNat) ∧
      (∀ tag, parse s = .error (.tagOutOfRange tag) ↔
        Numeral (trim s).toList tag.toNat ∧ 3 ≤ tag.toNat) ∧
      ∀ t, parse s = .error (.unknown t) ↔
        t = trim s ∧ (∀ l : Lifetime, t ≠ l.name) ∧ ∀ n ≤ 255, ¬ Numeral t.toList n) ∧
    ∀ n : Int64, (Argument.number n).lifetime? = (Argument.text (toString n.toInt)).lifetime? := by
  refine ⟨?_, ?_⟩
  · intro s
    have htrims : Trims s.toList (trim s).toList := by
      rw [Text.toList_trim]
      exact Text.trims_trimmed s.toList
    exact ⟨htrims, fun _ => parse_eq_ok_iff, fun _ => parse_eq_tagOutOfRange_iff,
      fun _ => parse_eq_unknown_iff⟩
  · intro n
    apply Option.ext
    intro l
    rw [Argument.lifetime?_number_iff, Argument.lifetime?_toString_iff]

/-- A tag one past a byte is no tag, however it is written. -/
example : Lifetime.parse "\u3000+00002\n" = .ok .singleton ∧
    Lifetime.parse "0255" = .error (.tagOutOfRange 255) ∧
    Lifetime.parse " 256" = .error (.unknown "256") ∧
    Lifetime.parse "-0" = .error (.unknown "-0") := by decide

end InjectionPlan

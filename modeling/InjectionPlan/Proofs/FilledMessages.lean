import Mathlib.Data.List.Chain
import InjectionPlan.Diagnostic.Record

/-! # Filled messages

    The arguments of a message are put into its template one after another, each into the
    whole text that the one before it left.  Two things could go wrong: an argument could
    hold the mark of a later hole, and a mark could come about where an argument and the
    words beside it meet.

    The first is excluded by a condition on the arguments (`NoLaterHoles`).  The second
    cannot happen in the templates of findings: their holes stand apart, with words between
    them that share no character with any mark (`Template.Spaced`).  So each replacement
    works on every piece for itself (`replaceAll_flatMap`), and after each round the text is
    the template with the arguments so far (`fillFrom_flatMap`).

    Main statement: a message is the written template with all marks replaced at once, from
    left to right, and everything else kept (`message_filled_at_once`).
-/

namespace InjectionPlan

namespace Text

variable {mark insert w cs xs ys : List Char} {c : Char} {m n : Nat} {args : List String}
  {t : Template}

/-! ### Marks of holes -/

/-- Whether the character can stand in the mark of a hole. -/
def isMarkChar (c : Char) : Bool := c == '\x7b' || c == '\x7d' || c.isDigit

/-- A number is written with digits only. -/
theorem not_mem_number (hc : c.isDigit = false) (n : Nat) : c ∉ Nat.toDigits 10 n := by
  intro h
  rw [Nat.isDigit_of_mem_toDigits (by omega) (by omega) h] at hc
  cases hc

theorem isMarkChar_of_mem_holeMark (hc : c ∈ holeMark n) : isMarkChar c = true := by
  unfold holeMark at hc
  rcases List.mem_cons.1 hc with rfl | hc
  · rfl
  rcases List.mem_append.1 hc with hc | hc
  · have hdigit : c.isDigit = true := Nat.isDigit_of_mem_toDigits (by omega) (by omega) hc
    simp [isMarkChar, hdigit]
  · rw [List.mem_singleton.1 hc]
    rfl

theorem holeMark_ne_nil (n : Nat) : holeMark n ≠ [] := List.cons_ne_nil _ _

/-- The opening brace stands in front only. -/
theorem open_not_mem_number (n : Nat) : '\x7b' ∉ Nat.toDigits 10 n ++ ['\x7d'] := by
  intro h
  rcases List.mem_append.1 h with h | h
  · exact not_mem_number rfl n h
  · cases List.mem_singleton.1 h

/-- Up to the first end mark there is one way to read a text. -/
theorem eq_of_prefix_append_cons (hx : c ∉ xs) (hy : c ∉ ys)
    (h : xs ++ [c] <+: ys ++ c :: cs) : xs = ys := by
  induction xs generalizing ys with
  | nil =>
    cases ys with
    | nil => rfl
    | cons y ys =>
      have hy : c ≠ y := List.ne_of_not_mem_cons hy
      exact absurd (List.cons_prefix_cons.1 h).1 hy
  | cons x xs ih =>
    cases ys with
    | nil =>
      have hx : c ≠ x := List.ne_of_not_mem_cons hx
      exact absurd (List.cons_prefix_cons.1 h).1.symm hx
    | cons y ys =>
      obtain ⟨rfl, hrest⟩ := List.cons_prefix_cons.1 h
      rw [ih (List.not_mem_of_not_mem_cons hx) (List.not_mem_of_not_mem_cons hy) hrest]

/-- A text begins with the mark of one hole at most. -/
theorem holeMark_prefix_iff : holeMark m <+: holeMark n ++ cs ↔ m = n := by
  constructor
  · intro h
    -- the closing brace ends both numbers, so they are written alike
    have htail : Nat.toDigits 10 m ++ ['\x7d'] <+: Nat.toDigits 10 n ++ '\x7d' :: cs := by
      have hrest : Nat.toDigits 10 m ++ ['\x7d'] <+: Nat.toDigits 10 n ++ ['\x7d'] ++ cs :=
        (List.cons_prefix_cons.1 h).2
      rwa [List.append_assoc] at hrest
    have hnumber := eq_of_prefix_append_cons (not_mem_number rfl m) (not_mem_number rfl n) htail
    calc
      m = Nat.ofDigitChars 10 (Nat.toDigits 10 m) 0 := Nat.ofDigitChars_ten_toDigits.symm
      _ = Nat.ofDigitChars 10 (Nat.toDigits 10 n) 0 := by rw [hnumber]
      _ = n := Nat.ofDigitChars_ten_toDigits
  · rintro rfl
    exact List.prefix_append _ _

/-- No mark holds another one. -/
theorem holeMark_infix_iff : holeMark m <:+: holeMark n ↔ m = n := by
  constructor
  · intro h
    rcases List.infix_cons_iff.1 h with h | h
    · have h : holeMark m <+: holeMark n ++ [] := by rwa [List.append_nil]
      exact holeMark_prefix_iff.1 h
    · exact absurd (h.subset List.mem_cons_self) (open_not_mem_number n)
  · rintro rfl
    exact List.infix_refl _

theorem not_holeMark_prefix_cons (hc : c ≠ '\x7b') (n : Nat) : ¬ holeMark n <+: c :: cs := by
  intro h
  exact hc (List.cons_prefix_cons.1 h).1.symm

/-! ### Replacing a mark -/

theorem replaceFrom_of_marked (h : mark <+: c :: cs) :
    replaceFrom mark insert 0 (c :: cs) =
      insert ++ replaceFrom mark insert (mark.length - 1) cs := by
  rw [replaceFrom, if_pos (List.isPrefixOf_iff_prefix.2 h)]

theorem replaceFrom_of_unmarked (h : ¬ mark <+: c :: cs) :
    replaceFrom mark insert 0 (c :: cs) = c :: replaceFrom mark insert 0 cs := by
  rw [replaceFrom, if_neg (fun hp => h (List.isPrefixOf_iff_prefix.1 hp))]

theorem replaceAll_of_not_infix (h : ¬ mark <:+: cs) : replaceAll mark insert cs = cs := by
  unfold replaceAll
  induction cs with
  | nil => rfl
  | cons c cs ih =>
    rw [List.infix_cons_iff, not_or] at h
    rw [replaceFrom_of_unmarked h.1, ih h.2]

/-- Skipping a whole text leaves nothing of it. -/
theorem replaceFrom_length (mark insert cs : List Char) :
    replaceFrom mark insert cs.length cs = [] := by
  induction cs with
  | nil => rfl
  | cons c cs ih => exact ih

theorem replaceAll_self (hm : mark ≠ []) : replaceAll mark insert mark = insert := by
  unfold replaceAll
  cases mark with
  | nil => exact absurd rfl hm
  | cons c mark =>
    have hskip : (c :: mark).length - 1 = mark.length := rfl
    rw [replaceFrom_of_marked (List.prefix_refl _), hskip, replaceFrom_length,
      List.append_nil]

theorem not_prefix_of_not_mem (hm : mark ≠ []) (hc : c ∉ mark) : ¬ mark <+: c :: cs := by
  intro h
  cases mark with
  | nil => exact hm rfl
  | cons d mark =>
    have hd : d = c := (List.cons_prefix_cons.1 h).1
    exact hc (hd ▸ List.mem_cons_self)

/-- A mark cannot reach across a character that it does not hold. -/
theorem prefix_append_cons_iff (hc : c ∉ mark) : mark <+: xs ++ c :: ys ↔ mark <+: xs := by
  constructor
  · intro h
    by_cases hlen : mark.length ≤ xs.length
    · exact List.prefix_of_prefix_length_le h (List.prefix_append _ _) hlen
    · have hfront : xs ++ [c] <+: xs ++ c :: ys := ⟨ys, by simp⟩
      have hreach : xs ++ [c] <+: mark := by
        refine List.prefix_of_prefix_length_le hfront h ?_
        rw [List.length_append, List.length_singleton]
        omega
      exact absurd (hreach.subset (by simp)) hc
  · intro h
    exact h.trans (List.prefix_append _ _)

/-- Such a character parts the text: what stands before it and what stands after it are
searched each for itself. -/
theorem replaceFrom_append_cons (hm : mark ≠ []) (hc : c ∉ mark) {skip : Nat}
    (hskip : skip ≤ xs.length) :
    replaceFrom mark insert skip (xs ++ c :: ys) =
      replaceFrom mark insert skip xs ++ c :: replaceAll mark insert ys := by
  -- the induction follows the search: `skip` characters of a replaced mark are left out, and
  -- none of them is `c`
  induction xs generalizing skip with
  | nil =>
    obtain rfl : skip = 0 := Nat.le_zero.1 hskip
    exact replaceFrom_of_unmarked (not_prefix_of_not_mem hm hc)
  | cons x xs ih =>
    cases skip with
    | succ skip => exact ih (Nat.le_of_succ_le_succ hskip)
    | zero =>
      have hiff : mark <+: x :: (xs ++ c :: ys) ↔ mark <+: x :: xs := by
        rw [← List.cons_append, prefix_append_cons_iff hc]
      show replaceFrom mark insert 0 (x :: (xs ++ c :: ys)) = _
      by_cases hp : mark <+: x :: xs
      · have hlen : mark.length - 1 ≤ xs.length := by
          have := hp.length_le
          rw [List.length_cons] at this
          omega
        rw [replaceFrom_of_marked (hiff.2 hp), replaceFrom_of_marked hp, ih hlen,
          List.append_assoc]
      · rw [replaceFrom_of_unmarked (fun h => hp (hiff.1 h)),
          replaceFrom_of_unmarked hp, ih (Nat.zero_le _), List.cons_append]

theorem replaceAll_append_cons (hm : mark ≠ []) (hc : c ∉ mark) :
    replaceAll mark insert (xs ++ c :: ys) =
      replaceAll mark insert xs ++ c :: replaceAll mark insert ys :=
  replaceFrom_append_cons hm hc (Nat.zero_le _)

theorem replaceAll_cons_of_not_mem (hm : mark ≠ []) (hc : c ∉ mark) :
    replaceAll mark insert (c :: cs) = c :: replaceAll mark insert cs :=
  replaceFrom_of_unmarked (not_prefix_of_not_mem hm hc)

/-- Words that share no character with the mark are kept. -/
theorem replaceAll_words_append (hm : mark ≠ []) (hw : ∀ c ∈ w, c ∉ mark) :
    replaceAll mark insert (w ++ ys) = w ++ replaceAll mark insert ys := by
  induction w with
  | nil => rfl
  | cons c w ih =>
    have hrest := ih fun d hd => hw d (List.mem_cons_of_mem _ hd)
    rw [List.cons_append, replaceAll_cons_of_not_mem hm (hw c List.mem_cons_self), hrest,
      List.cons_append]

theorem replaceAll_words (hm : mark ≠ []) (hw : ∀ c ∈ w, c ∉ mark) :
    replaceAll mark insert w = w := by
  apply replaceAll_of_not_infix
  intro h
  obtain ⟨c, hc⟩ := List.exists_mem_of_ne_nil mark hm
  exact hw c (h.subset hc) hc

/-! ### Spaced templates -/

namespace Piece

/-- Whether the piece is words. -/
def isWords : Piece → Bool
  | words _ => true
  | hole _ => false

/-- Whether the piece is a hole, or words that are not empty and share no character with a
mark. -/
def isPlain : Piece → Bool
  | words s => !s.toList.isEmpty && s.toList.all (!isMarkChar ·)
  | hole _ => true

theorem isPlain_words_iff {s : String} :
    (words s).isPlain = true ↔ s.toList ≠ [] ∧ ∀ c ∈ s.toList, isMarkChar c = false := by
  simp [isPlain]

end Piece

theorem Piece.instantiate_hole (args : List String) (k : Nat) :
    (Piece.hole k).instantiate args = (args[k]?.map String.toList).getD (holeMark k) := rfl

/-- All words are plain, and between two holes there are words. -/
structure Template.Spaced (t : Template) : Prop where
  /-- All words are plain. -/
  plain : ∀ p ∈ t, p.isPlain = true
  /-- Of two pieces side by side, one is words. -/
  apart : List.IsChain (fun p q : Piece => (p.isWords || q.isWords) = true) t

theorem Template.Spaced.tail {p : Piece} (ht : Template.Spaced (p :: t)) : t.Spaced :=
  ⟨fun q hq => ht.plain q (List.mem_cons_of_mem _ hq), ht.apart.tail⟩

/-- No character of plain words stands in a mark. -/
theorem not_mem_holeMark {s : String} (hs : (Piece.words s).isPlain = true) :
    ∀ c ∈ s.toList, c ∉ holeMark n := by
  intro c hc hmem
  have hfalse := (Piece.isPlain_words_iff.1 hs).2 c hc
  rw [isMarkChar_of_mem_holeMark hmem] at hfalse
  cases hfalse

/-- In a spaced template a mark is replaced in every piece for itself, however the holes are
filled. -/
theorem replaceAll_flatMap (ht : t.Spaced) {write : Piece → List Char}
    (hwrite : ∀ s, write (.words s) = s.toList) :
    replaceAll (holeMark n) insert (t.flatMap write) =
      t.flatMap fun p => replaceAll (holeMark n) insert (write p) := by
  induction t with
  | nil => rfl
  | cons p t ih =>
    have ih := ih ht.tail
    have hm := holeMark_ne_nil n
    rw [List.flatMap_cons, List.flatMap_cons, ← ih]
    cases p with
    | words s =>
      have hwords : ∀ c ∈ s.toList, c ∉ holeMark n :=
        not_mem_holeMark (ht.plain _ List.mem_cons_self)
      rw [hwrite, replaceAll_words_append hm hwords, replaceAll_words hm hwords]
    | hole k =>
      cases t with
      | nil => rw [List.flatMap_nil, List.append_nil]; exact (List.append_nil _).symm
      | cons q t =>
        -- the words that follow begin with a character that parts the text
        obtain ⟨s, rfl⟩ : ∃ s, q = .words s := by
          cases q with
          | words s => exact ⟨s, rfl⟩
          | hole _ => exact absurd ht.apart (by simp [Piece.isWords])
        have hs : (Piece.words s).isPlain = true :=
          ht.plain _ (List.mem_cons_of_mem _ List.mem_cons_self)
        obtain ⟨c, w, hcw⟩ := List.exists_cons_of_ne_nil (Piece.isPlain_words_iff.1 hs).1
        have hc : c ∉ holeMark n := not_mem_holeMark hs c (by rw [hcw]; exact List.mem_cons_self)
        have hnext : List.flatMap write (.words s :: t) = c :: (w ++ t.flatMap write) := by
          rw [List.flatMap_cons, hwrite, hcw, List.cons_append]
        rw [hnext, replaceAll_append_cons hm hc, replaceAll_cons_of_not_mem hm hc]

/-! ### Filling round by round -/

/-- No argument holds the mark of a later hole that has an argument. -/
def NoLaterHoles (args : List String) : Prop :=
  ∀ j < args.length, ∀ a ∈ args.take j, ¬ holeMark j <:+: a.toList

instance : DecidablePred NoLaterHoles := fun args =>
  inferInstanceAs (Decidable (∀ j < args.length, ∀ a ∈ args.take j, ¬ holeMark j <:+: a.toList))

/-- One round gives every piece the next argument. -/
theorem replaceAll_instantiate {done : List String} {a : String} {p : Piece}
    (hp : p.isPlain = true) (hdone : ∀ b ∈ done, ¬ holeMark done.length <:+: b.toList) :
    replaceAll (holeMark done.length) a.toList (p.instantiate done) =
      p.instantiate (done ++ [a]) := by
  cases p with
  | words s => exact replaceAll_words (holeMark_ne_nil _) (not_mem_holeMark hp)
  | hole k =>
    rw [Piece.instantiate_hole, Piece.instantiate_hole]
    -- a hole that is filled, the one whose turn it is, or one that comes later
    rcases Nat.lt_trichotomy k done.length with hk | rfl | hk
    · have hget : done[k]? = some done[k] := List.getElem?_eq_getElem hk
      rw [List.getElem?_append_left hk, hget]
      exact replaceAll_of_not_infix (hdone _ (List.getElem_mem hk))
    · have hget : done[done.length]? = none := List.getElem?_eq_none (Nat.le_refl _)
      rw [List.getElem?_concat_length, hget]
      exact replaceAll_self (holeMark_ne_nil _)
    · have hget : done[k]? = none := List.getElem?_eq_none (by omega)
      have hget' : (done ++ [a])[k]? = none := by
        apply List.getElem?_eq_none
        rw [List.length_append, List.length_singleton]
        omega
      rw [hget, hget']
      have hother : ¬ holeMark done.length <:+: holeMark k := by
        rw [holeMark_infix_iff]
        omega
      exact replaceAll_of_not_infix hother

/-- After each round the text is the template with the arguments so far. -/
theorem fillFrom_flatMap (ht : t.Spaced) {done todo : List String}
    (h : NoLaterHoles (done ++ todo)) :
    fillFrom done.length todo (t.flatMap (Piece.instantiate done)) =
      t.flatMap (Piece.instantiate (done ++ todo)) := by
  -- one round moves the first argument from `todo` to the end of `done`
  induction todo generalizing done with
  | nil => rw [List.append_nil]; rfl
  | cons a todo ih =>
    have hdone : ∀ b ∈ done, ¬ holeMark done.length <:+: b.toList := by
      intro b hb
      refine h done.length ?_ b ?_
      · rw [List.length_append, List.length_cons]
        omega
      · rwa [List.take_left]
    have hround : replaceAll (holeMark done.length) a.toList
        (t.flatMap (Piece.instantiate done)) = t.flatMap (Piece.instantiate (done ++ [a])) := by
      rw [replaceAll_flatMap ht fun _ => rfl]
      apply List.flatMap_congr
      intro p hp
      exact replaceAll_instantiate (ht.plain p hp) hdone
    have hsplit : done ++ a :: todo = done ++ [a] ++ todo := by simp
    have hlen : done.length + 1 = (done ++ [a]).length := by simp
    show fillFrom (done.length + 1) todo _ = _
    rw [hround, hlen, hsplit]
    rw [hsplit] at h
    exact ih h

theorem fill_eq_instantiate (ht : t.Spaced) (h : NoLaterHoles args) :
    t.fill args = t.instantiate args := by
  have hstart : t.flatMap Piece.text = t.flatMap (Piece.instantiate []) := by
    apply List.flatMap_congr
    intro p _
    cases p <;> rfl
  have h : NoLaterHoles ([] ++ args) := h
  have hfill : fillFrom 0 args (t.flatMap (Piece.instantiate [])) =
      t.flatMap (Piece.instantiate args) := fillFrom_flatMap ht h
  unfold Template.fill Template.instantiate
  rw [hstart, hfill]

/-! ### Filling at once -/

/-- The second text is the first, read from left to right, with the mark of each hole that
has an argument replaced by the argument, and with every other character kept. -/
inductive FilledAtOnce (args : List String) : List Char → List Char → Prop
  /-- Nothing is left. -/
  | done : FilledAtOnce args [] []
  /-- The text goes on with the mark of a hole. -/
  | hole {k : Nat} {a : String} {cs out : List Char} :
    args[k]? = some a → FilledAtOnce args cs out →
      FilledAtOnce args (holeMark k ++ cs) (a.toList ++ out)
  /-- The text goes on with no mark of a hole that has an argument. -/
  | char {c : Char} {cs out : List Char} :
    (∀ k < args.length, ¬ holeMark k <+: c :: cs) → FilledAtOnce args cs out →
      FilledAtOnce args (c :: cs) (c :: out)

namespace FilledAtOnce

variable {out out' : List Char}

/-- There is one way to fill a text at once. -/
theorem unique (h : FilledAtOnce args cs out) (h' : FilledAtOnce args cs out') : out = out' := by
  induction h generalizing out' with
  | done =>
    cases h' with
    | done => rfl
  | @hole k a cs out hk _ ih =>
    generalize hcs : holeMark k ++ cs = text at h'
    cases h' with
    | done => cases hcs
    | @hole k' a' cs' out' hk' h' =>
      obtain rfl : k' = k := by
        apply holeMark_prefix_iff.1
        rw [hcs]
        exact List.prefix_append _ _
      obtain rfl : cs = cs' := List.append_cancel_left hcs
      obtain rfl : a = a' := Option.some.inj (hk.symm.trans hk')
      rw [ih h']
    | char hnone _ =>
      have hlt := (List.getElem?_eq_some_iff.1 hk).1
      exact absurd (hcs ▸ List.prefix_append _ _) (hnone k hlt)
  | @char c cs out hnone _ ih =>
    generalize hcs : c :: cs = text at h'
    cases h' with
    | done => cases hcs
    | @hole k' a' cs' out' hk' h' =>
      have hlt := (List.getElem?_eq_some_iff.1 hk').1
      exact absurd (hcs ▸ List.prefix_append _ _) (hnone k' hlt)
    | char _ h' =>
      cases hcs
      rw [ih h']

theorem words (hw : ∀ c ∈ w, c ≠ '\x7b') (h : FilledAtOnce args cs out) :
    FilledAtOnce args (w ++ cs) (w ++ out) := by
  induction w with
  | nil => exact h
  | cons c w ih =>
    refine .char ?_ (ih fun d hd => hw d (List.mem_cons_of_mem _ hd))
    intro k _
    exact not_holeMark_prefix_cons (hw c List.mem_cons_self) k

/-- The mark of a hole without argument is kept. -/
theorem openHole (hn : args.length ≤ n) (h : FilledAtOnce args cs out) :
    FilledAtOnce args (holeMark n ++ cs) (holeMark n ++ out) := by
  have hnumber : FilledAtOnce args ((Nat.toDigits 10 n ++ ['\x7d']) ++ cs)
      ((Nat.toDigits 10 n ++ ['\x7d']) ++ out) := by
    apply words _ h
    rintro c hc rfl
    exact open_not_mem_number n hc
  refine .char ?_ hnumber
  intro k hk hp
  have hkn : k = n := holeMark_prefix_iff.1 hp
  omega

/-- The written template becomes the template with all holes filled at once. -/
theorem flatMap_instantiate (ht : ∀ p ∈ t, p.isPlain = true) (args : List String) :
    FilledAtOnce args (t.flatMap Piece.text) (t.flatMap (Piece.instantiate args)) := by
  induction t with
  | nil => exact .done
  | cons p t ih =>
    have ih := ih fun q hq => ht q (List.mem_cons_of_mem _ hq)
    rw [List.flatMap_cons, List.flatMap_cons]
    cases p with
    | words s =>
      apply words _ ih
      rintro c hc rfl
      have := (Piece.isPlain_words_iff.1 (ht _ List.mem_cons_self)).2 _ hc
      cases this
    | hole k =>
      rw [Piece.instantiate_hole]
      cases hk : args[k]? with
      | some a => exact .hole hk ih
      | none => exact openHole (List.getElem?_eq_none_iff.1 hk) ih

end FilledAtOnce

end Text

open Text (NoLaterHoles FilledAtOnce)

theorem Finding.spaced_template (f : Finding) : f.template.Spaced := by
  cases f <;> exact ⟨by decide, by decide⟩

/-- Let no argument hold the mark of a later hole.  Then the message of a diagnostic is the
written template of its finding with the marks of all holes replaced at once by their
arguments, and with all else kept.  An argument is copied as it is, also if it holds braces,
its own mark or the mark of an earlier hole. -/
theorem Diagnostic.message_filled_at_once (f : Finding) (location : Location)
    {args : List String} (h : NoLaterHoles args) (text : String) :
    (make f location args).message = text ↔
      FilledAtOnce args f.template.text.toList text.toList := by
  have hspaced := f.spaced_template
  have hmessage : (make f location args).message = f.template.instantiate args :=
    Text.fill_eq_instantiate hspaced h
  have hfilled : FilledAtOnce args f.template.text.toList (f.template.instantiate args).toList := by
    unfold Text.Template.text Text.Template.instantiate
    rw [String.toList_ofList, String.toList_ofList]
    exact FilledAtOnce.flatMap_instantiate hspaced.plain args
  rw [hmessage]
  constructor
  · rintro rfl
    exact hfilled
  · intro htext
    exact String.toList_inj.1 (hfilled.unique htext)

namespace Braced

/-- The place of a type. -/
def place : Location := ⟨"App.Root", none, none⟩

/-- Arguments with braces, with their own marks and with earlier ones.  The second begins
and the third ends with a part of a mark. -/
def args : List String := ["\x7b0\x7d\x7b", "1\x7d\x7b1\x7d\x7b0\x7d", "\x7b2\x7d\x7b1"]

/-- The message with each of them copied as it is. -/
def message : String :=
  "Method \x7b0\x7d\x7b marks type 1\x7d\x7b1\x7d\x7b0\x7d as a composition source but " ++
    "1\x7d\x7b1\x7d\x7b0\x7d does not implement \x7b2\x7d\x7b1"

end Braced

theorem Braced.copied_as_they_are :
    NoLaterHoles args ∧ (Diagnostic.make .sourceNotRoot place args).message = message ∧
      FilledAtOnce args Finding.sourceNotRoot.template.text.toList message.toList := by
  have hargs : NoLaterHoles args := by decide +kernel
  have hmessage : (Diagnostic.make .sourceNotRoot place args).message = message := by decide
  exact ⟨hargs, hmessage,
    (Diagnostic.message_filled_at_once .sourceNotRoot place hargs message).1 hmessage⟩

/-- The mark of a later hole is not kept. -/
example : (Diagnostic.make .hookNotStatic ⟨"App.Root", none, none⟩ ["\x7b1\x7d", "App"]).message =
    "Method App on type App must be static" := by decide

end InjectionPlan

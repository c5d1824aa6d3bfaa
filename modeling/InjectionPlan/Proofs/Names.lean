import InjectionPlan.Proofs.Subexpressions

/-! # Reading qualified names back

    A qualified name is a text, and two different references can be written the
    same way.  They cannot if their names are *well-formed*: no simple name is
    empty, no name holds an angle bracket or a comma, and brackets are written
    only around arguments.

    Then the text says all that an inheritance walk needs to know of a reference:
    - its definition name and the number of its arguments, hence the family name
      by which its declaration is found (`familyName_eq_of_qualifiedName_eq`);
    - the qualified names of its arguments (`argNames_eq_of_qualifiedName_eq`).

    Both follow from `WellNamed.readsUniquely`: a qualified name that is followed by a comma, a
    closing bracket or nothing can be read in one way only.
-/

namespace InjectionPlan

/-! ### Well-formed names -/

/-- Whether the character separates the parts of a qualified name. -/
def isDelimiter (c : Char) : Bool := c == '<' || c == '>' || c == ','

/-- The simple name is not empty, and neither it nor the namespace holds a
delimiter. -/
def TypeHead.WellNamed (h : TypeHead) : Prop :=
  h.name ≠ "" ∧ ∀ c ∈ h.ns.toList ++ h.name.toList, isDelimiter c = false

instance : DecidablePred TypeHead.WellNamed := fun h =>
  decidable_of_iff
    (h.name ≠ "" ∧ (h.ns.toList ++ h.name.toList).all (!isDelimiter ·) = true)
    (by simp only [TypeHead.WellNamed, List.all_eq_true, Bool.not_eq_true'])

/-- What is written before the simple name: the namespace and a dot, if there is a
namespace. -/
def TypeHead.qualifier (h : TypeHead) : List Char :=
  if h.ns.isEmpty then [] else h.ns.toList ++ ['.']

namespace TypeExpr

/-- Whether the expression is written with brackets around nothing. -/
def hasEmptyBrackets : TypeExpr → Bool
  | plain _ => false
  | applied _ as => as.isEmpty
  | erased _ n => n == 0

/-- The head of the expression is well-named, and its own brackets are not empty. -/
def PartWellNamed (u : TypeExpr) : Prop := u.head.WellNamed ∧ u.hasEmptyBrackets = false

instance : DecidablePred PartWellNamed :=
  fun u => inferInstanceAs (Decidable (u.head.WellNamed ∧ u.hasEmptyBrackets = false))

/-- All names in the expression can be read back.  No brackets are empty: the
expression is built by `apply` and `erase`. -/
def WellNamed : TypeExpr → Prop := Every PartWellNamed

instance : DecidablePred WellNamed := inferInstanceAs (DecidablePred (Every PartWellNamed))

theorem shallow_partWellNamed : Shallow PartWellNamed := by
  intro h as bs hlen hp
  refine ⟨hp.1, ?_⟩
  have has : as.isEmpty = false := hp.2
  show bs.isEmpty = false
  cases as with
  | nil => cases has
  | cons a as =>
    cases bs with
    | nil => cases hlen
    | cons b bs => rfl

/-- Brackets that are not empty hold an argument. -/
theorem arity_pos {t : TypeExpr} (ht : t.hasEmptyBrackets = false) (hplain : t ≠ plain t.head) :
    0 < t.arity := by
  cases t with
  | plain => exact absurd rfl hplain
  | applied _ as =>
    have has : as ≠ [] := by simpa [hasEmptyBrackets] using ht
    exact List.length_pos_iff.2 has
  | erased _ n =>
    have hn : n ≠ 0 := by simpa [hasEmptyBrackets] using ht
    have hcount : n.toNat ≠ 0 := fun h => hn (UInt64.toNat_inj.1 h)
    show 0 < n.toNat
    omega

theorem WellNamed.head {t : TypeExpr} (ht : t.WellNamed) : t.head.WellNamed := ht.self.1

/-! ### Names as lists of characters -/

theorem toList_definitionName (h : TypeHead) :
    h.definitionName.toList = h.qualifier ++ h.name.toList := by
  rw [TypeHead.definitionName, TypeHead.qualifier]
  split <;> simp

theorem toList_erasedSuffix (n : Nat) :
    (erasedSuffix n).toList = '<' :: (List.replicate (n - 1) ',' ++ ['>']) := by
  simp [erasedSuffix]

theorem definitionName_ne_nil {h : TypeHead} (hh : h.WellNamed) :
    h.definitionName.toList ≠ [] := by
  have hname : h.name.toList ≠ [] := by simpa using hh.1
  rw [toList_definitionName]
  exact List.append_ne_nil_of_right_ne_nil _ hname

theorem not_isDelimiter_of_mem_definitionName {h : TypeHead} (hh : h.WellNamed) :
    ∀ c ∈ h.definitionName.toList, isDelimiter c = false := by
  intro c hc
  rw [toList_definitionName] at hc
  rcases List.mem_append.1 hc with hc | hc
  · rw [TypeHead.qualifier] at hc
    split at hc
    · cases hc
    · rcases List.mem_append.1 hc with hc | hc
      · exact hh.2 c (List.mem_append_left _ hc)
      · obtain rfl := List.mem_singleton.1 hc
        rfl
  · exact hh.2 c (List.mem_append_right _ hc)

/-- In one namespace different simple names give different definition names. -/
theorem definitionName_eq_iff {ns n n' : String} {k k' : TypeKind} :
    TypeHead.definitionName ⟨ns, n, k⟩ = TypeHead.definitionName ⟨ns, n', k'⟩ ↔ n = n' := by
  rw [TypeHead.definitionName, TypeHead.definitionName]
  split
  · rfl
  · rw [String.append_right_inj]

/-- A name that could not be resolved is shown like a definition in the given namespace. -/
theorem displayName_of_isBroken {t : TypeExpr} (ht : t.isBroken = true) (home : String) :
    t.displayName home = TypeHead.definitionName ⟨home, t.name, .broken⟩ := by
  rw [displayName, if_pos ht]
  rfl

/-- What stands after the definition name. -/
def brackets : TypeExpr → List Char
  | plain _ => []
  | applied _ as => '<' :: ((joinedNames as).toList ++ ['>'])
  | erased _ n => '<' :: (List.replicate (n.toNat - 1) ',' ++ ['>'])

/-- The names of the arguments after the first. -/
def furtherNames (as : List TypeExpr) : List Char :=
  as.flatMap fun a => ',' :: ' ' :: a.qualifiedName.toList

/-- The qualified names of the arguments. -/
def argNames (t : TypeExpr) : List String := t.args.map qualifiedName

theorem toList_qualifiedName (t : TypeExpr) :
    t.qualifiedName.toList = t.definitionName.toList ++ t.brackets := by
  cases t <;> simp [qualifiedName, definitionName, head, brackets, toList_erasedSuffix]

theorem toList_joinedNames_cons (a : TypeExpr) (as : List TypeExpr) :
    (joinedNames (a :: as)).toList = a.qualifiedName.toList ++ furtherNames as := by
  induction as generalizing a with
  | nil => simp [joinedNames, furtherNames]
  | cons b bs ih => simp [joinedNames, furtherNames, ih b]

/-! ### Reading a name -/

/-- The text cannot go on with the name before it: it is empty or begins with a
comma or a closing bracket. -/
def Closes (r : List Char) : Prop := ∀ c ∈ r.head?, c = ',' ∨ c = '>'

/-- The qualified name of the expression can be read in one way only, whatever
closes it. -/
def ReadsUniquely (t : TypeExpr) : Prop :=
  ∀ (u : TypeExpr) (r r' : List Char), u.WellNamed → Closes r → Closes r' →
    t.qualifiedName.toList ++ r = u.qualifiedName.toList ++ r' →
      t.qualifiedName = u.qualifiedName ∧ r = r'

/-- Two texts without a boundary that each go on with one, if at all, end at the same place. -/
theorem append_inj_of_boundary {isBoundary : Char → Bool} {p p' r r' : List Char}
    (hp : ∀ c ∈ p, isBoundary c = false) (hp' : ∀ c ∈ p', isBoundary c = false)
    (hr : ∀ c ∈ r.head?, isBoundary c = true) (hr' : ∀ c ∈ r'.head?, isBoundary c = true)
    (h : p ++ r = p' ++ r') : p = p' ∧ r = r' := by
  induction p generalizing p' with
  | nil =>
    cases p' with
    | nil => exact ⟨rfl, h⟩
    | cons c p' =>
      have hr : isBoundary c = true := hr c (by rw [show r = c :: (p' ++ r') from h]; rfl)
      rw [hp' c List.mem_cons_self] at hr
      cases hr
  | cons c p ih =>
    cases p' with
    | nil =>
      have hr' : isBoundary c = true := hr' c (by rw [show r' = c :: (p ++ r) from h.symm]; rfl)
      rw [hp c List.mem_cons_self] at hr'
      cases hr'
    | cons c' p' =>
      rw [List.cons_append, List.cons_append, List.cons.injEq] at h
      obtain ⟨rfl, h⟩ := h
      obtain ⟨rfl, hrr⟩ := ih (fun c hc => hp c (List.mem_cons_of_mem _ hc))
        (fun c hc => hp' c (List.mem_cons_of_mem _ hc)) h
      exact ⟨rfl, hrr⟩

/-- Commas before a closing bracket can be counted. -/
theorem replicate_comma_inj {m n : Nat} {r r' : List Char}
    (h : List.replicate m ',' ++ '>' :: r = List.replicate n ',' ++ '>' :: r') :
    m = n ∧ r = r' := by
  induction m generalizing n with
  | zero =>
    cases n with
    | zero => simpa using h
    | succ n => simp [List.replicate_succ] at h
  | succ m ih =>
    cases n with
    | zero => simp [List.replicate_succ] at h
    | succ n =>
      simp only [List.replicate_succ, List.cons_append, List.cons.injEq, true_and] at h
      obtain ⟨rfl, hr⟩ := ih h
      exact ⟨rfl, hr⟩

/-- What follows a name in brackets is the next comma or the closing bracket. -/
theorem closes_furtherNames (as : List TypeExpr) (r : List Char) :
    Closes (furtherNames as ++ '>' :: r) := by
  cases as <;> simp [Closes, furtherNames]

/-- A list of further arguments can be read in one way only up to the closing
bracket. -/
theorem furtherNames_unique {as bs : List TypeExpr} {r r' : List Char}
    (has : ∀ a ∈ as, ReadsUniquely a) (hbs : ∀ b ∈ bs, b.WellNamed)
    (h : furtherNames as ++ '>' :: r = furtherNames bs ++ '>' :: r') :
    as.map qualifiedName = bs.map qualifiedName ∧ r = r' := by
  induction as generalizing bs with
  | nil =>
    cases bs with
    | nil => simpa [furtherNames] using h
    | cons b bs => simp [furtherNames] at h
  | cons a as ih =>
    cases bs with
    | nil => simp [furtherNames] at h
    | cons b bs =>
      have h : a.qualifiedName.toList ++ (furtherNames as ++ '>' :: r) =
          b.qualifiedName.toList ++ (furtherNames bs ++ '>' :: r') := by
        simpa [furtherNames] using h
      obtain ⟨hab, h⟩ := has a List.mem_cons_self b _ _ (hbs b List.mem_cons_self)
        (closes_furtherNames as r) (closes_furtherNames bs r') h
      obtain ⟨hm, hr⟩ := ih (fun a ha => has a (List.mem_cons_of_mem _ ha))
        (fun b hb => hbs b (List.mem_cons_of_mem _ hb)) h
      exact ⟨by rw [List.map_cons, List.map_cons, hab, hm], hr⟩

/-- A well-formed name begins with no delimiter. -/
theorem exists_head_qualifiedName {t : TypeExpr} (ht : t.WellNamed) :
    ∃ c cs, t.qualifiedName.toList = c :: cs ∧ isDelimiter c = false := by
  obtain ⟨c, cs, hd⟩ := List.exists_cons_of_ne_nil (definitionName_ne_nil ht.head)
  refine ⟨c, cs ++ t.brackets, ?_, ?_⟩
  · rw [toList_qualifiedName, definitionName, hd, List.cons_append]
  · exact not_isDelimiter_of_mem_definitionName ht.head c (by rw [hd]; exact List.mem_cons_self)

/-- Arguments that are written out are no commas. -/
theorem joinedNames_append_ne {a : TypeExpr} (ha : a.WellNamed) (as : List TypeExpr) (n : Nat)
    (r r' : List Char) :
    (joinedNames (a :: as)).toList ++ r ≠ List.replicate n ',' ++ '>' :: r' := by
  intro h
  obtain ⟨c, cs, hc, hd⟩ := exists_head_qualifiedName ha
  rw [toList_joinedNames_cons, hc] at h
  cases n with
  | zero =>
    obtain ⟨rfl, -⟩ : c = '>' ∧ _ := by simpa using h
    cases hd
  | succ n =>
    obtain ⟨rfl, -⟩ : c = ',' ∧ _ := by simpa [List.replicate_succ] using h
    cases hd

/-- The brackets say how many arguments there are and how these are named. -/
theorem brackets_unique {t u : TypeExpr} {r r' : List Char} (ht : t.WellNamed) (hu : u.WellNamed)
    (hargs : ∀ a ∈ t.args, ReadsUniquely a) (hr : Closes r) (hr' : Closes r')
    (h : t.brackets ++ r = u.brackets ++ r') :
    t.arity = u.arity ∧ t.argNames = u.argNames ∧ r = r' := by
  -- a text that closes a name does not open brackets
  have not_open {r cs : List Char} (hr : Closes r) (h : r = '<' :: cs) : False := by
    rcases hr '<' (by rw [h]; rfl) with h | h <;> simp at h
  have toNat_pos {h : TypeHead} {n : UInt64} (hn : (erased h n).hasEmptyBrackets = false) :
      0 < n.toNat :=
    arity_pos hn (by simp)
  have exists_cons {h : TypeHead} {as : List TypeExpr}
      (has : (applied h as).hasEmptyBrackets = false) : ∃ a as', as = a :: as' :=
    List.exists_cons_of_length_pos (arity_pos has (by simp))
  cases ht with
  | plain =>
    cases hu with
    | plain => exact ⟨rfl, rfl, h⟩
    | applied => exact (not_open hr h).elim
    | erased => exact (not_open hr h).elim
  | @applied _ as hp hwas =>
    obtain ⟨a, as, rfl⟩ := exists_cons hp.2
    cases hu with
    | plain => exact (not_open hr' h.symm).elim
    | @applied _ bs hp' hwbs =>
      obtain ⟨b, bs, rfl⟩ := exists_cons hp'.2
      have h : a.qualifiedName.toList ++ (furtherNames as ++ '>' :: r) =
          b.qualifiedName.toList ++ (furtherNames bs ++ '>' :: r') := by
        simpa [brackets, toList_joinedNames_cons] using h
      -- the first arguments agree, and then the further ones do
      obtain ⟨hab, h⟩ := hargs a List.mem_cons_self b _ _ (hwbs b List.mem_cons_self)
        (closes_furtherNames as r) (closes_furtherNames bs r') h
      obtain ⟨hm, hrr⟩ := furtherNames_unique (fun a ha => hargs a (List.mem_cons_of_mem _ ha))
        (fun b hb => hwbs b (List.mem_cons_of_mem _ hb)) h
      have hlen : as.length = bs.length := by simpa using congrArg List.length hm
      exact ⟨by simp [arity, hlen], by simp [argNames, hab, hm], hrr⟩
    | @erased _ n hp' =>
      -- written arguments begin with a name, erased ones with a comma or the end
      refine (joinedNames_append_ne (hwas a List.mem_cons_self) as (n.toNat - 1) ('>' :: r) r'
        ?_).elim
      simpa [brackets] using h
  | @erased _ n hp =>
    cases hu with
    | plain => exact (not_open hr' h.symm).elim
    | @applied _ bs hp' hwbs =>
      obtain ⟨b, bs, rfl⟩ := exists_cons hp'.2
      refine (joinedNames_append_ne (hwbs b List.mem_cons_self) bs (n.toNat - 1) ('>' :: r') r
        ?_).elim
      simpa [brackets] using h.symm
    | @erased _ m hp' =>
      have h : List.replicate (n.toNat - 1) ',' ++ '>' :: r =
          List.replicate (m.toNat - 1) ',' ++ '>' :: r' := by
        simpa [brackets] using h
      obtain ⟨hnm, hrr⟩ := replicate_comma_inj h
      -- the number of commas gives the number of arguments, as there is at least one
      have hn := toNat_pos hp.2
      have hm := toNat_pos hp'.2
      exact ⟨show n.toNat = m.toNat by omega, rfl, hrr⟩

/-- Where the definition name ends: brackets and closing texts begin with a delimiter. -/
theorem definitionName_unique {t u : TypeExpr} {r r' : List Char} (ht : t.WellNamed)
    (hu : u.WellNamed) (hr : Closes r) (hr' : Closes r')
    (h : t.qualifiedName.toList ++ r = u.qualifiedName.toList ++ r') :
    t.definitionName = u.definitionName ∧ t.brackets ++ r = u.brackets ++ r' := by
  have delimited {t : TypeExpr} {r : List Char} (hr : Closes r) :
      ∀ c ∈ (t.brackets ++ r).head?, isDelimiter c = true := by
    intro c hc
    cases t with
    | plain =>
      rcases hr c hc with rfl | rfl <;> rfl
    | applied =>
      obtain rfl : '<' = c := by simpa [brackets] using hc
      rfl
    | erased =>
      obtain rfl : '<' = c := by simpa [brackets] using hc
      rfl
  rw [toList_qualifiedName, toList_qualifiedName, List.append_assoc, List.append_assoc] at h
  obtain ⟨hd, hb⟩ := append_inj_of_boundary (not_isDelimiter_of_mem_definitionName ht.head)
    (not_isDelimiter_of_mem_definitionName hu.head) (delimited hr) (delimited hr') h
  exact ⟨String.toList_inj.1 hd, hb⟩

/-- Well-formed names can be read in one way only. -/
theorem WellNamed.readsUniquely {t : TypeExpr} (ht : t.WellNamed) : ReadsUniquely t := by
  induction t using argsInduction with
  | ofArgs t ih =>
    intro u r r' hu hr hr' h
    have hargs : ∀ a ∈ t.args, ReadsUniquely a := fun a ha => ih a ha (ht.args a ha)
    -- the rests after the two names agree, so the names do too
    obtain ⟨-, hb⟩ := definitionName_unique ht hu hr hr' h
    obtain ⟨-, -, rfl⟩ := brackets_unique ht hu hargs hr hr' hb
    exact ⟨String.toList_inj.1 (List.append_cancel_right h), rfl⟩

/-! ### What a name says of a reference -/

/-- Equal names mean equal definition names, as many arguments and equally named
ones. -/
theorem parts_eq_of_qualifiedName_eq {t u : TypeExpr} (ht : t.WellNamed) (hu : u.WellNamed)
    (h : t.qualifiedName = u.qualifiedName) :
    t.definitionName = u.definitionName ∧ t.arity = u.arity ∧ t.argNames = u.argNames := by
  have closes_nil : Closes [] := by simp [Closes]
  have h : t.qualifiedName.toList ++ [] = u.qualifiedName.toList ++ [] := by rw [h]
  obtain ⟨hd, hb⟩ := definitionName_unique ht hu closes_nil closes_nil h
  obtain ⟨ha, hn, -⟩ := brackets_unique ht hu (fun a ha => WellNamed.readsUniquely (ht.args a ha))
    closes_nil closes_nil hb
  exact ⟨hd, ha, hn⟩

/-- The definition name and the number of arguments make the family name. -/
theorem familyName_congr {t u : TypeExpr} (hname : t.definitionName = u.definitionName)
    (harity : t.arity = u.arity) : t.familyName = u.familyName := by
  rw [familyName, familyName, isGeneric, isGeneric, hname, harity]

theorem familyName_eq_of_qualifiedName_eq {t u : TypeExpr} (ht : t.WellNamed) (hu : u.WellNamed)
    (h : t.qualifiedName = u.qualifiedName) : t.familyName = u.familyName := by
  obtain ⟨hd, ha, -⟩ := parts_eq_of_qualifiedName_eq ht hu h
  exact familyName_congr hd ha

/-- The family name says the definition name too: what follows it begins with a bracket. -/
theorem definitionName_eq_of_familyName_eq {t u : TypeExpr} (ht : t.WellNamed) (hu : u.WellNamed)
    (h : t.familyName = u.familyName) : t.definitionName = u.definitionName := by
  have delimited (v : TypeExpr) :
      ∀ c ∈ (if v.isGeneric then erasedSuffix v.arity else "").toList.head?,
        isDelimiter c = true := by
    intro c hc
    split at hc
    · rw [toList_erasedSuffix] at hc
      obtain rfl : '<' = c := by simpa using hc
      rfl
    · cases hc
  have hlists := congrArg String.toList h
  rw [familyName, familyName, String.toList_append, String.toList_append] at hlists
  obtain ⟨hname, -⟩ := append_inj_of_boundary (not_isDelimiter_of_mem_definitionName ht.head)
    (not_isDelimiter_of_mem_definitionName hu.head) (delimited t) (delimited u) hlists
  exact String.toList_inj.1 hname

theorem argNames_eq_of_qualifiedName_eq {t u : TypeExpr} (ht : t.WellNamed) (hu : u.WellNamed)
    (h : t.qualifiedName = u.qualifiedName) : t.argNames = u.argNames :=
  (parts_eq_of_qualifiedName_eq ht hu h).2.2

/-! ### Names after substitution -/

theorem joinedNames_congr {as bs : List TypeExpr}
    (h : as.map qualifiedName = bs.map qualifiedName) : joinedNames as = joinedNames bs := by
  have further (as : List TypeExpr) : furtherNames as =
      (as.map qualifiedName).flatMap fun n => ',' :: ' ' :: n.toList := by
    rw [List.flatMap_map]
    rfl
  cases as with
  | nil =>
    obtain rfl : bs = [] := by simpa using h.symm
    rfl
  | cons a as =>
    obtain ⟨b, bs, rfl⟩ := List.exists_cons_of_ne_nil (l := bs) (by rintro rfl; cases h)
    rw [List.map_cons, List.map_cons, List.cons.injEq] at h
    apply String.toList_inj.1
    rw [toList_joinedNames_cons, toList_joinedNames_cons, further, further, h.1, h.2]

end TypeExpr

/-- What each parameter is bound to, by name. -/
def Binding.names (σ : Binding) : List (String × String) := σ.map fun b => (b.1, b.2.qualifiedName)

theorem Binding.lookup_names (σ : Binding) (n : String) :
    σ.names.lookup n = (σ.lookup n).map TypeExpr.qualifiedName :=
  σ.lookup_map TypeExpr.qualifiedName n

theorem Binding.names_of (params : List String) (args : List TypeExpr) :
    (Binding.of params args).names = params.zip (args.map TypeExpr.qualifiedName) := by
  rw [names, Binding.of, List.zip_map_right]
  rfl

/-- Equally named arguments give equally named results. -/
theorem TypeExpr.qualifiedName_substitute_congr {σ τ : Binding} (h : σ.names = τ.names)
    (t : TypeExpr) : (t.substitute σ).qualifiedName = (t.substitute τ).qualifiedName := by
  induction t using substitutionInduction with
  | parameter t ht =>
    have hl : (σ.lookup t.name).map qualifiedName = (τ.lookup t.name).map qualifiedName := by
      rw [← Binding.lookup_names, ← Binding.lookup_names, h]
    rw [substitute_of_parameter ht, substitute_of_parameter ht]
    cases hσ : σ.lookup t.name <;> cases hτ : τ.lookup t.name <;> simp_all
  | plain h hk => rw [substitute_plain hk, substitute_plain hk]
  | applied h as hk ih =>
    have has : joinedNames (as.map (substitute σ)) = joinedNames (as.map (substitute τ)) := by
      apply joinedNames_congr
      simpa using ih
    rw [substitute_applied hk, substitute_applied hk, qualifiedName, qualifiedName, has]
  | erased h n hk => rw [substitute_erased hk, substitute_erased hk]

end InjectionPlan

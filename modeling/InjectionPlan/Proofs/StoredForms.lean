import InjectionPlan.Proofs.Subexpressions
import InjectionPlan.Stored.Plan
import Mathlib.Logic.Function.Defs

/-! # Stored forms lose nothing

    Whatever is stored is read back (`Document.Recovers`).  So no two values have one stored
    form, and what was read once, in whatever form, is stored in a form that stays as it is
    (`Document.Lossless`).

    Stored forms are nested as the values are: a plan holds instructions, these hold
    diagnostics, and so on.  Each is shown to be recovered from its parts.  Only type
    expressions are nested in themselves; there it takes an induction on the expression.

    An optional value is null if it is absent, so the stored form of a value that is there
    must not be null (`Document.Recovers.option`).
-/

namespace InjectionPlan

namespace Document

variable {α : Type} {store : α → Document} {read : Document → Option α}

/-- Each value is read back from its stored form. -/
def Recovers (store : α → Document) (read : Document → Option α) : Prop :=
  ∀ a, read (store a) = some a

/-- Storing and reading lose nothing. -/
structure Lossless (store : α → Document) (read : Document → Option α) : Prop where
  /-- Each value is read back. -/
  recovers : Recovers store read
  /-- No two values have one stored form. -/
  injective : Function.Injective store
  /-- What was read and stored again stays as it is when this is done once more. -/
  stable : ∀ given again, (read given).map store = some again →
    (read again).map store = some again

theorem Recovers.lossless (hread : Recovers store read) : Lossless store read where
  recovers := hread
  injective := by
    intro a b hab
    have hsome : some a = some b := by rw [← hread a, hab, hread b]
    exact Option.some_inj.1 hsome
  stable := by
    intro given again hagain
    obtain ⟨a, -, rfl⟩ := Option.map_eq_some_iff.1 hagain
    rw [hread a, Option.map_some]

/-! ### Parts of documents -/

theorem recovers_text : Recovers text text? := fun _ => rfl

theorem recovers_bool : Recovers bool bool? := fun _ => rfl

theorem integer?_of_bounds {n least greatest : Int} (hleast : least ≤ n)
    (hgreatest : n ≤ greatest) : (integer n).integer? least greatest = some n :=
  if_pos ⟨hleast, hgreatest⟩

theorem recovers_uint32 : Recovers (fun n : UInt32 => integer n.toNat) uint32? := by
  intro n
  have hgreatest : (n.toNat : Int) ≤ 0xffffffff := by
    have hn := n.toNat_lt
    omega
  show ((integer n.toNat).integer? _ _).map _ = some n
  rw [integer?_of_bounds (Int.natCast_nonneg _) hgreatest, Option.map_some, Int.toNat_natCast,
    UInt32.ofNat_toNat]

theorem recovers_uint64 : Recovers (fun n : UInt64 => integer n.toNat) uint64? := by
  intro n
  have hgreatest : (n.toNat : Int) ≤ 0xffffffffffffffff := by
    have hn := n.toNat_lt
    omega
  show ((integer n.toNat).integer? _ _).map _ = some n
  rw [integer?_of_bounds (Int.natCast_nonneg _) hgreatest, Option.map_some, Int.toNat_natCast,
    UInt64.ofNat_toNat]

theorem recovers_int64 : Recovers (fun n : Int64 => integer n.toInt) int64? := by
  intro n
  have hleast : -0x8000000000000000 ≤ n.toInt := n.le_toInt
  have hgreatest : n.toInt ≤ 0x7fffffffffffffff := by
    have hn := n.toInt_lt
    omega
  show ((integer n.toInt).integer? _ _).map _ = some n
  rw [integer?_of_bounds hleast hgreatest, Option.map_some, Int64.ofInt_toInt]

theorem Recovers.list (hread : Recovers store read) : Recovers (ofList store) (list? read) := by
  intro as
  show (as.map store).mapM read = some as
  induction as with
  | nil => rfl
  | cons a as ih =>
    rw [List.map_cons, List.mapM_cons, hread a, ih]
    rfl

/-- A value and its absence are told apart if no value is stored as null. -/
theorem Recovers.option (hread : Recovers store read) (hnull : ∀ a, store a ≠ null) :
    Recovers (ofOption store) (option? read) := by
  intro o
  cases o with
  | none => rfl
  | some a =>
    show option? read (store a) = some (some a)
    unfold option?
    split
    · -- null would be read as an absent value
      next heq => exact absurd heq (hnull a)
    · rw [hread a, Option.map_some]

end Document

open Document (Recovers Lossless)

/-! ### Fields of objects -/

namespace Fields

variable {α : Type} {read : Document → Option α} {default : α} {name other : String}
variable {d : Document} {fs : Fields}

@[simp]
theorem required_cons_self : required ((name, d) :: fs) name read = read d := by
  simp [required]

@[simp]
theorem required_cons_of_ne (hname : name ≠ other) :
    required ((other, d) :: fs) name read = required fs name read := by
  rw [required, List.lookup_cons, beq_false_of_ne hname]
  rfl

@[simp]
theorem optional_cons_self : optional ((name, d) :: fs) name read = d.option? read := by
  simp [optional]

@[simp]
theorem optional_cons_of_ne (hname : name ≠ other) :
    optional ((other, d) :: fs) name read = optional fs name read := by
  rw [optional, List.lookup_cons, beq_false_of_ne hname]
  rfl

@[simp]
theorem defaulted_cons_self : defaulted ((name, d) :: fs) name read default = read d := by
  simp [defaulted]

@[simp]
theorem defaulted_cons_of_ne (hname : name ≠ other) :
    defaulted ((other, d) :: fs) name read default = defaulted fs name read default := by
  rw [defaulted, List.lookup_cons, beq_false_of_ne hname]
  rfl

/-- The fields but those of these names. -/
def without (fs : Fields) (names : List String) : Fields := fs.filter fun f => f.1 ∉ names

theorem lookup_without (fs : Fields) (names : List String) (name : String) :
    (fs.without names).lookup name = if name ∈ names then none else fs.lookup name := by
  induction fs with
  | nil => simp [without]
  | cons f fs ih =>
    by_cases hf : f.1 ∈ names
    · have hremoved : without (f :: fs) names = without fs names :=
        List.filter_cons_of_neg (by simpa using hf)
      rw [hremoved, ih]
      by_cases hname : name ∈ names
      · rw [if_pos hname, if_pos hname]
      · -- the name is that of another field
        have hother : name ≠ f.1 := by
          rintro rfl
          exact hname hf
        rw [if_neg hname, if_neg hname, List.lookup_cons, beq_false_of_ne hother]
    · have hkept : without (f :: fs) names = f :: without fs names :=
        List.filter_cons_of_pos (by simpa using hf)
      rw [hkept, List.lookup_cons, List.lookup_cons, ih]
      by_cases hname : name = f.1
      · subst hname
        simp [hf]
      · rw [beq_false_of_ne hname]

/-- A field that was removed has its default, and the others are as before. -/
theorem defaulted_without {names : List String} {a : α}
    (hread : fs.defaulted name read default = some a) :
    (fs.without names).defaulted name read default =
      some (if name ∈ names then default else a) := by
  rw [defaulted, lookup_without]
  by_cases hname : name ∈ names
  · rw [if_pos hname, if_pos hname]
  · rw [if_neg hname, if_neg hname, ← hread]
    rfl

end Fields

/-- The document without the fields of these names. -/
def Document.without (names : List String) : Document → Document
  | object fs => object (Fields.without fs names)
  | d => d

/-! ### Type expressions -/

theorem TypeKind.recovers :
    Recovers (fun k => .text (storedName k)) (Document.oneOf? storedNames) := by
  intro k
  cases k <;> rfl

namespace TypeExpr

/-- The fields of a head and the generic arguments are read for themselves. -/
theorem restore?_head (h : TypeHead) (generics : Document) :
    restore? (h.store generics) = (generics? generics).map (·.attach h) := by
  have hhead : TypeHead.restore? [("namespace", .text h.ns), ("name", .text h.name),
      ("kind", .text h.kind.storedName), ("generics", generics)] = some h := by
    simp [TypeHead.restore?, Document.recovers_text h.ns, Document.recovers_text h.name,
      TypeKind.recovers h.kind]
  have hgenerics : genericsField? [("namespace", .text h.ns), ("name", .text h.name),
      ("kind", .text h.kind.storedName), ("generics", generics)] = generics? generics := by
    simp [genericsField?]
  rw [TypeHead.store, restore?, hhead, hgenerics]
  cases generics? generics <;> rfl

theorem restoreAll?_storeAll {as : List TypeExpr} (has : ∀ a ∈ as, restore? (store a) = some a) :
    restoreAll? (storeAll as) = some as := by
  induction as with
  | nil => rfl
  | cons a as ih =>
    obtain ⟨ha, has⟩ := List.forall_mem_cons.1 has
    rw [storeAll, restoreAll?, ha, ih has]
    rfl

/-- By induction on the expression: its arguments are recovered, and so is the form that
holds them. -/
theorem recovers : Recovers store restore? := by
  intro t
  induction t with
  | plain h =>
    rw [store, restore?_head]
    rfl
  | applied h as ih =>
    have hform : generics? (.object [("Bound", .list (storeAll as))]) = some (.bound as) := by
      rw [generics?, genericsForm?, restoreAll?_storeAll ih, Option.map_some]
    rw [store, restore?_head, hform]
    rfl
  | erased h n =>
    have hform : generics? (.object [("Unbound", .integer n.toNat)]) = some (.unbound n) := by
      rw [generics?, genericsForm?, Document.recovers_uint64 n, Option.map_some]
    rw [store, restore?_head, hform]
    rfl

theorem store_ne_null (t : TypeExpr) : store t ≠ .null := by
  cases t <;> simp [store, TypeHead.store]

end TypeExpr

/-! ### Markers and what they hold -/

theorem Lifetime.recovers : Recovers store restore? := by
  intro l
  cases l <;> rfl

theorem Access.recovers : Recovers store restore? := by
  intro a
  cases a <;> rfl

theorem SourcePlace.recovers : Recovers store restore? := by
  intro p
  simp [store, restore?, Document.fields?, Document.recovers_text p.file,
    Document.recovers_uint32 p.line, Document.recovers_uint32 p.column]

theorem MarkerKind.recovers : Recovers store restore? := by
  intro k
  cases k <;> rfl

theorem Argument.recovers : Recovers store restore? := by
  intro a
  cases a with
  | flag b => rfl
  | number n => exact congrArg (Option.map number) (Document.recovers_int64 n)
  | text s => rfl
  | lifetime l => exact congrArg (Option.map lifetime) (Lifetime.recovers l)
  | type t => exact congrArg (Option.map type) (TypeExpr.recovers t)

namespace Marker

theorem recovers_named : Recovers storeNamed (Document.pair? Document.text? Argument.restore?) := by
  intro a
  simp [storeNamed, Document.pair?, Document.recovers_text a.1, Argument.recovers a.2]

theorem recovers : Recovers store restore? := by
  intro m
  have htype := TypeExpr.recovers.option TypeExpr.store_ne_null m.typeArgument
  simp [store, restore?, Document.fields?, MarkerKind.recovers m.kind,
    recovers_named.list m.named, htype, Argument.recovers.list m.positional]

end Marker

/-! ### Diagnostics -/

theorem Severity.recovers : Recovers store restore? := by
  intro s
  cases s <;> rfl

theorem Finding.recovers : Recovers store restore? := by
  intro f
  cases f <;> rfl

theorem Location.recovers : Recovers store restore? := by
  intro l
  have hmember := Document.recovers_text.option (by simp) l.member
  have hspan := SourcePlace.recovers.option (by simp [SourcePlace.store]) l.span
  simp [store, restore?, Document.fields?, Document.recovers_text l.typeName, hmember, hspan]

theorem Diagnostic.recovers : Recovers store restore? := by
  intro d
  simp [store, restore?, Document.fields?, Finding.recovers d.finding,
    Severity.recovers d.severity, Document.recovers_text d.message, Location.recovers d.location]

theorem Report.recovers : Recovers store restore? := by
  intro r
  simp [store, restore?, Document.fields?, Diagnostic.recovers.list r.records]

/-! ### Instructions -/

theorem Registration.recovers : Recovers store restore? := by
  intro r
  have hservice := Document.recovers_text.option (by simp) r.service
  have hname := Document.recovers_text.option (by simp) r.serviceName
  simp [store, restore?, Document.fields?, hservice, Document.recovers_text r.implementation,
    Lifetime.recovers r.lifetime, hname]

theorem Decoration.recovers : Recovers store restore? := by
  intro d
  simp [store, restore?, Document.fields?, Document.recovers_text d.decorated,
    Document.recovers_text d.decorator]

theorem HookKind.recovers : Recovers store restore? := by
  intro k
  cases k <;> rfl

theorem HookCall.recovers : Recovers store restore? := by
  intro c
  simp [store, restore?, Document.fields?, Document.recovers_text c.typeName,
    Document.recovers_text c.methodName, HookKind.recovers c.kind,
    Diagnostic.recovers.list c.errors]

theorem Instruction.recovers : Recovers store restore? := by
  intro i
  cases i with
  | register r => exact congrArg (Option.map register) (Registration.recovers r)
  | decorate d => exact congrArg (Option.map decorate) (Decoration.recovers d)
  | call c => exact congrArg (Option.map call) (HookCall.recovers c)

/-! ### Settings and plans -/

theorem Host.recovers : Recovers store restore? := by
  intro h
  have hroot := Document.recovers_text.option (by simp) h.rootName
  have hcontract := Document.recovers_text.option (by simp) h.rootContract
  simp [store, restore?, Document.fields?, Document.recovers_text h.name,
    Document.recovers_text h.registryType, hroot, hcontract,
    Document.recovers_text h.equalityContract, Document.recovers_text h.rootObject]

namespace Settings

/-- The fields of stored settings. -/
def storedFields (s : Settings) : Fields :=
  [("host", s.host.store), ("warn_on_ambiguous_contract", .bool s.warnsOnAmbiguity),
    ("parallel", .bool s.parallel)]

/-- The settings with the fields of these names as in the settings to start from. -/
def reset (s : Settings) (names : List String) : Settings where
  host := if "host" ∈ names then default.host else s.host
  warnsOnAmbiguity :=
    if "warn_on_ambiguous_contract" ∈ names then default.warnsOnAmbiguity else s.warnsOnAmbiguity
  parallel := if "parallel" ∈ names then default.parallel else s.parallel

/-- Settings with some of their fields missing are read with these fields reset. -/
theorem restore?_without (s : Settings) (names : List String) :
    restore? (s.store.without names) = some (s.reset names) := by
  have hhost : (s.storedFields.without names).defaulted "host" Host.restore? default.host =
      some (s.reset names).host :=
    Fields.defaulted_without (by simp [storedFields, Host.recovers s.host])
  have hwarns : (s.storedFields.without names).defaulted "warn_on_ambiguous_contract"
      Document.bool? default.warnsOnAmbiguity = some (s.reset names).warnsOnAmbiguity :=
    Fields.defaulted_without (by
      simp [storedFields, Document.recovers_bool s.warnsOnAmbiguity])
  have hparallel : (s.storedFields.without names).defaulted "parallel" Document.bool?
      default.parallel = some (s.reset names).parallel :=
    Fields.defaulted_without (by simp [storedFields, Document.recovers_bool s.parallel])
  show restore? (.object (s.storedFields.without names)) = _
  simp [restore?, Document.fields?, hhost, hwarns, hparallel]

theorem recovers : Recovers store restore? := by
  intro s
  have hall : s.store.without [] = s.store := by simp [store, Document.without, Fields.without]
  rw [← hall]
  exact s.restore?_without []

end Settings

theorem Plan.recovers : Recovers store restore? := by
  intro p
  simp [store, restore?, Document.fields?, Instruction.recovers.list p.instructions,
    Document.recovers_text p.ns, Document.recovers_bool p.extendsRoot,
    Document.recovers_text p.entryPoint, Report.recovers p.report]

/-- Stored forms lose nothing, of whatever type.  Stored settings may also lack any of
their fields: those are then as in the settings to start from. -/
theorem stored_forms_lossless :
    Lossless TypeExpr.store TypeExpr.restore? ∧
    Lossless Lifetime.store Lifetime.restore? ∧
    Lossless Access.store Access.restore? ∧
    Lossless SourcePlace.store SourcePlace.restore? ∧
    Lossless Argument.store Argument.restore? ∧
    Lossless Marker.store Marker.restore? ∧
    Lossless Instruction.store Instruction.restore? ∧
    Lossless Diagnostic.store Diagnostic.restore? ∧
    Lossless Report.store Report.restore? ∧
    Lossless Host.store Host.restore? ∧
    Lossless Settings.store Settings.restore? ∧
    Lossless Plan.store Plan.restore? ∧
    ∀ (s : Settings) (removed : List String),
      Settings.restore? (s.store.without removed) = some (s.reset removed) := by
  refine ⟨TypeExpr.recovers.lossless, Lifetime.recovers.lossless, Access.recovers.lossless,
    SourcePlace.recovers.lossless, Argument.recovers.lossless, Marker.recovers.lossless,
    Instruction.recovers.lossless, Diagnostic.recovers.lossless, Report.recovers.lossless,
    Host.recovers.lossless, Settings.recovers.lossless, Plan.recovers.lossless,
    Settings.restore?_without⟩

end InjectionPlan

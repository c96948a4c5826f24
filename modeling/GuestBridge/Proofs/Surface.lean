import GuestBridge.Wasm.WellFormed
import Mathlib.Data.List.Forall2
import Mathlib.Data.List.Nodup
import Mathlib.Tactic.Common
/-!
What the surface of a module tells, against its sections. The types of functions are found by
number, and numbers count functions only: imported ones in the order of import, whatever else is
imported between them, and then the module's own. In a valid module every function gets the type
that its entry names, and nothing else gets one.
-/

set_option autoImplicit false

namespace GuestBridge.Wasm

/-- The index of the type that an imported function names. -/
def Import.function? (i : Import) : Option Nat :=
  match i.type with
  | .func type => some type
  | _ => none

def Import.isFunction (i : Import) : Bool := i.function?.isSome

namespace Module

/-- The number of a function and the index of its type. -/
inductive FunctionType (m : Module) : Nat → Nat → Prop
  | imported {earlier later : List Import} {i : Import} {type : Nat}
      (split : m.imports = earlier ++ i :: later) (function : i.type = .func type) :
      FunctionType m (earlier.countP Import.isFunction) type
  | own {n type : Nat} (there : m.functions[n]? = some type) :
      FunctionType m (m.imports.countP Import.isFunction + n) type

/-- What the surface tells of an import. -/
structure Lists (m : Module) (i : Import) (d : ImportDecl) : Prop where
  space : d.space = i.space
  name : d.name = i.name
  kind : d.kind = i.type.kind
  function : ∀ type, i.type = .func type → ∃ s, m.types[type]? = some s ∧ d.signature = some s
  other : d.kind ≠ .func → d.signature = none

/-- What the surface tells of an export. -/
structure Offers (m : Module) (e : Export) (d : ExportDecl) : Prop where
  name : d.name = e.name
  kind : d.kind = e.kind
  function : e.kind = .func →
    ∃ type s, m.FunctionType e.index type ∧ m.types[type]? = some s ∧ d.signature = some s
  other : d.kind ≠ .func → d.signature = none

variable {m : Module} {n type : Nat}

/-! Numbers of functions. -/

theorem functionTypes_eq (m : Module) :
    m.functionTypes = m.imports.filterMap Import.function? ++ m.functions := rfl

theorem length_importedFunctions (imports : List Import) :
    (imports.filterMap Import.function?).length = imports.countP Import.isFunction :=
  List.length_filterMap_eq_countP

theorem FunctionType.listed (has : m.FunctionType n type) : m.functionTypes[n]? = some type := by
  rw [functionTypes_eq]
  cases has with
  | @imported earlier later i type split function =>
    have here : i.function? = some type := by
      rw [Import.function?, function]
    rw [split, List.filterMap_append, List.filterMap_cons_some here, List.append_assoc,
      ← length_importedFunctions, List.getElem?_append_right (Nat.le_refl _), Nat.sub_self]
    rfl
  | own there =>
    rw [← length_importedFunctions, List.getElem?_append_right (Nat.le_add_right ..),
      Nat.add_sub_cancel_left]
    exact there

/-- The number of an imported function counts those before it. -/
theorem exists_imported {imports : List Import}
    (here : (imports.filterMap Import.function?)[n]? = some type) :
    ∃ earlier i later, imports = earlier ++ i :: later ∧ i.type = .func type ∧
      earlier.countP Import.isFunction = n := by
  induction imports generalizing n with
  | nil => cases here
  | cons i rest ih =>
    rcases kind : i.function? with _ | first
    · rw [List.filterMap_cons_none kind] at here
      obtain ⟨earlier, j, later, split, function, count⟩ := ih here
      refine ⟨i :: earlier, j, later, congrArg (i :: ·) split, function, ?_⟩
      rw [List.countP_cons_of_neg (by simp [Import.isFunction, kind]), count]
    · rw [List.filterMap_cons_some kind] at here
      cases n with
      | zero =>
        have same : first = type := Option.some.inj here
        refine ⟨[], i, rest, rfl, ?_, rfl⟩
        unfold Import.function? at kind
        split at kind <;> cases kind
        next named => exact same ▸ named
      | succ n =>
        obtain ⟨earlier, j, later, split, function, count⟩ := ih here
        refine ⟨i :: earlier, j, later, congrArg (i :: ·) split, function, ?_⟩
        rw [List.countP_cons_of_pos (by simp [Import.isFunction, kind]), count]

theorem functionType_iff : m.FunctionType n type ↔ m.functionTypes[n]? = some type := by
  refine ⟨FunctionType.listed, fun here => ?_⟩
  have length := length_importedFunctions m.imports
  rw [functionTypes_eq] at here
  by_cases inside : n < m.imports.countP Import.isFunction
  · rw [List.getElem?_append_left (by omega)] at here
    obtain ⟨earlier, i, later, split, function, rfl⟩ := exists_imported here
    exact .imported split function
  · rw [List.getElem?_append_right (by omega), length] at here
    have own : m.FunctionType _ type := .own here
    rwa [Nat.add_sub_cancel' (Nat.le_of_not_lt inside)] at own

theorem signature?_eq (has : m.FunctionType n type) : m.signature? n = m.types[type]? := by
  rw [signature?, has.listed]
  rfl

/-! Imports. -/

/-- An import, signed with the type that its own entry names. -/
def declared (m : Module) (i : Import) : ImportDecl where
  space := i.space
  name := i.name
  kind := i.type.kind
  signature := i.function?.bind fun type => m.types[type]?

theorem numberFunctions_cons (next : Nat) (i : Import) (rest : List Import) :
    numberFunctions next (i :: rest) = (i, if i.isFunction then some next else none) ::
      numberFunctions (next + if i.isFunction then 1 else 0) rest := by
  rcases kind : i.type <;> simp [numberFunctions, Import.isFunction, Import.function?, kind]

/-- The number of an imported function leads to the type that its entry names. -/
theorem importDecl_eq {earlier later : List Import} {i : Import}
    (split : m.imports = earlier ++ i :: later) :
    m.importDecl i (if i.isFunction then some (earlier.countP Import.isFunction) else none) =
      m.declared i := by
  unfold importDecl declared
  rcases kind : i.type with type | _ | _ | _ | _
  case func =>
    have named : i.function? = some type := by
      rw [Import.function?, kind]
    have number : m.FunctionType (earlier.countP Import.isFunction) type := .imported split kind
    simp only [Import.isFunction, named, Option.isSome_some, ↓reduceIte, Option.bind_some,
      signature?_eq number]
  all_goals
    have unnamed : i.function? = none := by
      rw [Import.function?, kind]
    simp [Import.isFunction, unnamed]

theorem map_numberFunctions {earlier rest : List Import} (split : m.imports = earlier ++ rest) :
    (numberFunctions (earlier.countP Import.isFunction) rest).map
      (fun (i, function) => m.importDecl i function) = rest.map m.declared := by
  induction rest generalizing earlier with
  | nil => rfl
  | cons i rest ih =>
    have next : m.imports = (earlier ++ [i]) ++ rest := by
      rw [split, List.append_assoc]
      rfl
    have tail := ih next
    rw [List.countP_append, List.countP_singleton] at tail
    rw [numberFunctions_cons, List.map_cons, tail]
    exact congrArg (· :: rest.map m.declared) (importDecl_eq split)

theorem surface_imports (m : Module) : m.surface.imports = m.imports.map m.declared :=
  @map_numberFunctions m [] m.imports rfl

/-! Valid modules. -/

theorem functionTypes_lt (valid : m.wellFormed = true) (listed : type ∈ m.functionTypes) :
    type < m.types.length := by
  have all : m.functionTypes.all (· < m.types.length) = true := by
    simp only [wellFormed, Bool.and_eq_true] at valid
    tauto
  exact of_decide_eq_true (List.all_eq_true.1 all type listed)

theorem exists_signature (valid : m.wellFormed = true) (listed : type ∈ m.functionTypes) :
    ∃ s, m.types[type]? = some s :=
  ⟨_, List.getElem?_eq_getElem (functionTypes_lt valid listed)⟩

theorem exportOk_of_mem (valid : m.wellFormed = true) {e : Export} (listed : e ∈ m.exports) :
    m.exportOk e = true := by
  have all : m.exports.all m.exportOk = true := by
    simp only [wellFormed, Bool.and_eq_true] at valid
    tauto
  exact List.all_eq_true.1 all e listed

theorem nodup_names (valid : m.wellFormed = true) : (m.exports.map (·.name)).Nodup := by
  simp only [wellFormed, Bool.and_eq_true, decide_eq_true_eq] at valid
  tauto

theorem lists_declared (valid : m.wellFormed = true) {i : Import} (listed : i ∈ m.imports) :
    m.Lists i (m.declared i) := by
  constructor
  case space | name | kind => rfl
  case function =>
    intro type function
    have named : i.function? = some type := by
      rw [Import.function?, function]
    have inside : type ∈ m.functionTypes :=
      List.mem_append_left _ (List.mem_filterMap.2 ⟨i, listed, named⟩)
    obtain ⟨s, found⟩ := exists_signature valid inside
    refine ⟨s, found, ?_⟩
    rw [declared, named]
    exact found
  case other =>
    intro other
    have unnamed : i.function? = none := by
      unfold Import.function?
      split
      next type function => exact absurd (congrArg ImportType.kind function) other
      · rfl
    rw [declared, unnamed]
    rfl

theorem offers_exportDecl (valid : m.wellFormed = true) {e : Export} (listed : e ∈ m.exports) :
    m.Offers e (m.exportDecl e) := by
  constructor
  case name | kind => rfl
  case function =>
    intro function
    have inside : e.index < m.functionTypes.length := by
      have ok := exportOk_of_mem valid listed
      rw [exportOk, function] at ok
      exact of_decide_eq_true ok
    obtain ⟨s, found⟩ := exists_signature valid (List.getElem_mem inside)
    have number : m.FunctionType e.index m.functionTypes[e.index] :=
      functionType_iff.2 (List.getElem?_eq_getElem inside)
    refine ⟨_, s, number, found, ?_⟩
    rw [exportDecl, if_pos function, signature?_eq number]
    exact found
  case other =>
    intro other
    exact if_neg other

theorem export?_eq_some {name : String} {d : ExportDecl} (found : m.surface.export? name = some d) :
    ∃ e ∈ m.exports, e.name = name ∧ d = m.exportDecl e := by
  unfold Surface.export? at found
  obtain ⟨e, listed, rfl⟩ := List.mem_map.1 (List.mem_of_find?_eq_some found)
  have same := List.find?_some found
  exact ⟨e, listed, eq_of_beq same, rfl⟩

theorem export?_of_mem (distinct : (m.exports.map (·.name)).Nodup) {e : Export}
    (listed : e ∈ m.exports) : m.surface.export? e.name = some (m.exportDecl e) := by
  have there : (m.surface.export? e.name).isSome = true :=
    List.find?_isSome.2 ⟨m.exportDecl e, List.mem_map_of_mem listed, beq_self_eq_true e.name⟩
  obtain ⟨d, found⟩ := Option.isSome_iff_exists.1 there
  obtain ⟨other, listed', same, rfl⟩ := export?_eq_some found
  rw [List.inj_on_of_nodup_map distinct listed' listed same] at found
  exact found

/-- In a valid module, whatever it imports and in whatever order: the surface lists the imports in
their order and the exports by their names. A function that is imported has the type that its entry
names, one that is exported the type of the function of its number, and nothing else has a type. -/
theorem surface_signs_functions (valid : m.wellFormed = true) :
    List.Forall₂ m.Lists m.imports m.surface.imports ∧
    (∀ e ∈ m.exports, ∃ d, m.surface.export? e.name = some d ∧ m.Offers e d) ∧
    ∀ name d, m.surface.export? name = some d → ∃ e ∈ m.exports, e.name = name ∧ m.Offers e d := by
  refine ⟨?_, fun e listed => ?_, fun name d found => ?_⟩
  · rw [surface_imports, List.forall₂_map_right_iff, List.forall₂_same]
    exact fun i listed => lists_declared valid listed
  · exact ⟨_, export?_of_mem (nodup_names valid) listed, offers_exportDecl valid listed⟩
  · obtain ⟨e, listed, same, rfl⟩ := export?_eq_some found
    exact ⟨e, listed, same, offers_exportDecl valid listed⟩

/-- Functions between imports of every other kind, and two of the module's own. The last function of
all and the second that is imported are exported. -/
def interleaved : Module where
  types := [⟨[.i32], []⟩, ⟨[], [.f64]⟩, ⟨[], []⟩]
  imports := [⟨"a", "memory", .memory ⟨⟨1, none⟩, false⟩⟩, ⟨"a", "first", .func 1⟩,
    ⟨"a", "tag", .tag 0⟩, ⟨"b", "table", .table ⟨.funcref, ⟨0, none⟩⟩⟩, ⟨"b", "second", .func 0⟩,
    ⟨"a", "global", .global ⟨.i32, false⟩⟩]
  functions := [2, 2]
  tables := []
  memories := []
  globals := []
  exports := [⟨"last", .func, 3⟩, ⟨"memory", .memory, 0⟩, ⟨"tag", .tag, 0⟩, ⟨"again", .func, 1⟩]
  start := none
  elements := []
  dataCount := none
  bodies := [⟨[], [.done]⟩, ⟨[], [.done]⟩]
  data := []

/-- The function that is imported second is numbered one, and its type is the first. -/
theorem surface_signs_functions_mixed :
    interleaved.wellFormed = true ∧ ∃ d, interleaved.surface.export? "again" = some d ∧
      interleaved.Offers ⟨"again", .func, 1⟩ d ∧ d.signature = some ⟨[.i32], []⟩ := by
  have valid : interleaved.wellFormed = true := by decide
  have listed : (⟨"again", .func, 1⟩ : Export) ∈ interleaved.exports := by decide
  obtain ⟨d, found, offers⟩ := (surface_signs_functions valid).2.1 _ listed
  obtain ⟨type, s, number, there, signed⟩ := offers.function rfl
  have first : type = 0 := Option.some.inj (number.listed.symm.trans rfl)
  subst first
  refine ⟨valid, d, found, offers, ?_⟩
  rw [signed, ← there]
  rfl

end Module

end GuestBridge.Wasm

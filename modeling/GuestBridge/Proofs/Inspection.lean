import GuestBridge.Command
import GuestBridge.Proofs.Linking
import GuestBridge.Proofs.Surface
import Mathlib.Data.List.Perm.Basic
import Mathlib.Tactic.Common
/-!
What a look at a module tells about its imports, against what linking them comes to. A look reads
names and signatures and no kinds. It agrees with linking on all functions, and mistakes for one
whatever else goes by the name of an operation, or of a host function that takes and yields nothing.
-/

set_option autoImplicit false

namespace GuestBridge

variable {registry : Registry} {names : ImportNames}

/-- The line that is told of an import. -/
def told (registry : Registry) (names : ImportNames) (i : ImportDecl) : InspectedImport :=
  if i.space = names.intrinsics then ⟨i.space, i.name, none, intrinsicStatus i⟩
  else if i.space = names.host then
    ⟨i.space, i.name, some (toldSignature i), hostStatus registry i⟩
  else ⟨i.space, i.name, none, .unresolvable⟩

/-- Whether a line says that its import can be bound. -/
def InspectedImport.Approves (line : InspectedImport) : Prop :=
  line.status.text ∈ ["intrinsic", "ok", "fallible"]

instance (line : InspectedImport) : Decidable line.Approves :=
  inferInstanceAs (Decidable (_ ∈ _))

/-- What a look asks of an import. -/
def ImportDecl.Known (registry : Registry) (names : ImportNames) (i : ImportDecl) : Prop :=
  (i.space = names.intrinsics ∧ i.name ∈ Intrinsic.all.map Intrinsic.name) ∨
    i.space = names.host ∧ ∃ c, registry.get? i.name = some c ∧ c.signature = toldSignature i

/-- An import that is taken for a function without being one. -/
structure ImportDecl.Mistaken (registry : Registry) (names : ImportNames) (i : ImportDecl) :
    Prop where
  other : i.kind ≠ .func
  namesake : (i.space = names.intrinsics ∧ i.name ∈ Intrinsic.all.map Intrinsic.name) ∨
    i.space = names.host ∧ ∃ c, registry.get? i.name = some c ∧ c.signature = ⟨[], []⟩

/-- Functions have a signature, and nothing else has. -/
def ImportDecl.Signed (i : ImportDecl) : Prop := i.signature.isSome ↔ i.kind = .func

theorem Wasm.Module.signed_surface {m : Wasm.Module} (valid : m.wellFormed = true) :
    ∀ i ∈ m.surface.imports, i.Signed := by
  intro i inside
  rw [surface_imports] at inside
  obtain ⟨declared, listed, rfl⟩ := List.mem_map.1 inside
  have lists : m.Lists declared (m.declared declared) := lists_declared valid listed
  unfold ImportDecl.Signed
  constructor
  · intro signed
    by_contra other
    rw [lists.other other] at signed
    cases signed
  · intro function
    rw [lists.kind] at function
    rcases type : declared.type with _ | _ | _ | _ | _ <;> rw [type] at function <;> cases function
    obtain ⟨s, -, signed⟩ := lists.function _ type
    rw [signed, Option.isSome_some]

/-- Every import has one line. -/
theorem inspectImports_perm (distinct : names.intrinsics ≠ names.host) (s : Surface) :
    (inspectImports registry names s).Perm (s.imports.map (told registry names)) := by
  unfold inspectImports Surface.importsFrom
  -- The lines come in three groups, so that each import goes on in front of its own.
  induction s.imports with
  | nil => exact .refl _
  | cons i rest ih =>
    by_cases intrinsic : i.space = names.intrinsics
    · have notHost : i.space ≠ names.host := fun host => distinct (intrinsic.symm.trans host)
      simpa [told, intrinsic, distinct] using ih
    · by_cases host : i.space = names.host
      · rw [List.append_assoc] at ih
        simpa [told, intrinsic, host, distinct.symm] using List.perm_middle.trans (ih.cons _)
      · simpa [told, intrinsic, host] using List.perm_middle.trans (ih.cons _)

theorem approves_iff (line : InspectedImport) : line.Approves ↔ line.status.resolved = true := by
  unfold InspectedImport.Approves
  cases line.status with
  | expected signature =>
    -- The text is not a literal, but it begins as none of the three does.
    refine iff_of_false (fun known => ?_) Bool.false_ne_true
    simp only [ImportStatus.text, List.mem_cons, List.not_mem_nil, or_false, String.ext_iff,
      String.toList_append] at known
    simp at known
  | _ => decide

theorem resolved_intrinsicStatus (i : ImportDecl) :
    (intrinsicStatus i).resolved = true ↔ i.name ∈ Intrinsic.all.map Intrinsic.name := by
  rw [Intrinsic.mem_names_iff, ← Option.isSome_iff_exists]
  unfold intrinsicStatus
  cases (Intrinsic.ofName? i.name).isSome <;> decide

theorem resolved_hostStatus (i : ImportDecl) :
    (hostStatus registry i).resolved = true ↔
      ∃ c, registry.get? i.name = some c ∧ c.signature = toldSignature i := by
  unfold hostStatus
  rcases registry.get? i.name with _ | c
  · exact iff_of_false Bool.false_ne_true nofun
  · by_cases fits : c.signature = toldSignature i
    · have resolved : (if c.fallible then ImportStatus.fallible else .available).resolved = true :=
        by cases c.fallible <;> rfl
      simpa only [if_pos fits, resolved, true_iff] using ⟨c, rfl, fits⟩
    · simp only [if_neg fits, ImportStatus.resolved, Bool.false_eq_true, Option.some.injEq,
        false_iff]
      rintro ⟨_, rfl, same⟩
      exact fits same

/-- A look approves what it knows. -/
theorem approves_told (distinct : names.intrinsics ≠ names.host) (i : ImportDecl) :
    (told registry names i).Approves ↔ i.Known registry names := by
  rw [approves_iff]
  unfold told
  by_cases intrinsic : i.space = names.intrinsics
  · have notHost : i.space ≠ names.host := fun host => distinct (intrinsic.symm.trans host)
    rw [if_pos intrinsic, resolved_intrinsicStatus]
    exact ⟨fun named => .inl ⟨intrinsic, named⟩,
      fun known => known.elim And.right fun host => absurd host.1 notHost⟩
  rw [if_neg intrinsic]
  by_cases host : i.space = names.host
  · rw [if_pos host, resolved_hostStatus]
    exact ⟨fun named => .inr ⟨host, named⟩,
      fun known => known.elim (fun here => absurd here.1 intrinsic) And.right⟩
  · rw [if_neg host]
    exact iff_of_false Bool.false_ne_true
      fun known => known.elim (fun here => intrinsic here.1) fun here => host here.1

namespace ImportDecl

variable {i : ImportDecl}

theorem Signed.of_function (signed : i.Signed) (function : i.kind = .func) :
    i.signature = some (toldSignature i) := by
  obtain ⟨signature, present⟩ := Option.isSome_iff_exists.1 (signed.2 function)
  rw [toldSignature, present, Option.getD_some]

theorem Signed.of_other (signed : i.Signed) (other : i.kind ≠ .func) :
    toldSignature i = ⟨[], []⟩ := by
  rw [toldSignature, Option.not_isSome_iff_eq_none.1 (mt signed.1 other), Option.getD_none]

theorem resolves_iff (signed : i.Signed) :
    i.Resolves registry names ↔ i.kind = .func ∧ i.Known registry names := by
  constructor
  · rintro ⟨function, offered⟩
    refine ⟨function, offered.imp_right fun ⟨host, c, registered, fits⟩ => ?_⟩
    rw [signed.of_function function, Option.some.injEq] at fits
    exact ⟨host, c, registered, fits.symm⟩
  · rintro ⟨function, known⟩
    refine ⟨function, known.imp_right fun ⟨host, c, registered, fits⟩ => ?_⟩
    exact ⟨host, c, registered, fits ▸ signed.of_function function⟩

theorem mistaken_iff (signed : i.Signed) :
    i.Mistaken registry names ↔ i.kind ≠ .func ∧ i.Known registry names := by
  constructor
  · rintro ⟨other, namesake⟩
    refine ⟨other, namesake.imp_right fun ⟨host, c, registered, plain⟩ => ?_⟩
    exact ⟨host, c, registered, plain.trans (signed.of_other other).symm⟩
  · rintro ⟨other, known⟩
    refine ⟨other, known.imp_right fun ⟨host, c, registered, fits⟩ => ?_⟩
    exact ⟨host, c, registered, fits.trans (signed.of_other other)⟩

theorem known_iff (signed : i.Signed) :
    i.Known registry names ↔ i.Resolves registry names ∨ i.Mistaken registry names := by
  rw [resolves_iff signed, mistaken_iff signed, ← or_and_right]
  exact (and_iff_right (Decidable.em _)).symm

theorem Offends.of_other (other : i.kind ≠ .func) {cause : UnresolvedImport}
    (offends : i.Offends registry names cause) : cause = .notFunction i.space i.name := by
  cases offends with
  | notFunction => rfl
  | unknownIntrinsic function | elsewhere function | unregistered function | signature function =>
    exact absurd function other

end ImportDecl

theorem Settings.distinct_of_validate {settings accepted : Settings}
    (valid : settings.validate = .ok accepted) :
    settings.imports.intrinsics ≠ settings.imports.host := by
  intro same
  unfold Settings.validate at valid
  simp only [same, ↓reduceIte] at valid
  split at valid
  · cases valid
  · split at valid <;> cases valid

/-- A look has a line for each import. -/
theorem inspectImports_named (distinct : names.intrinsics ≠ names.host) (s : Surface) :
    ((inspectImports registry names s).map fun line => (line.space, line.name)).Perm
      (s.imports.map fun i => (i.space, i.name)) := by
  have line (i : ImportDecl) :
      ((told registry names i).space, (told registry names i).name) = (i.space, i.name) := by
    unfold told
    split_ifs <;> rfl
  have perm : (inspectImports registry names s).Perm (s.imports.map (told registry names)) :=
    inspectImports_perm distinct s
  have pairs := perm.map fun line => (line.space, line.name)
  simpa only [List.map_map, Function.comp_def, line] using pairs

theorem approves_all (distinct : names.intrinsics ≠ names.host) (s : Surface) :
    (∀ line ∈ inspectImports registry names s, line.Approves) ↔
      ∀ i ∈ s.imports, i.Known registry names := by
  simp only [(inspectImports_perm distinct s).mem_iff, List.forall_mem_map, approves_told distinct]

namespace Links

variable {imports rest : List ImportDecl}

theorem succeeds_iff {outcome : Except UnresolvedImport Linked}
    (links : Links registry names imports rest outcome) :
    (∃ l, outcome = .ok l) ↔ ∀ i ∈ rest, i.Resolves registry names := by
  cases links with
  | bound resolve => exact iff_of_true ⟨_, rfl⟩ resolve
  | refused split _ unresolved =>
    refine iff_of_false nofun fun all => unresolved (all _ ?_)
    rw [split]
    exact List.mem_append_right _ (List.mem_cons_self ..)

/-- Where every import is known, only its kind can be wrong. -/
theorem blames {cause : UnresolvedImport} (links : Links registry names imports rest (.error cause))
    (signed : ∀ i ∈ rest, i.Signed) (known : ∀ i ∈ rest, i.Known registry names) :
    ∃ before i after, rest = before ++ i :: after ∧ (∀ j ∈ before, j.Resolves registry names) ∧
      i.Mistaken registry names ∧ cause = .notFunction i.space i.name := by
  cases links with
  | @refused before after i _ split resolve unresolved offends =>
    have inside : i ∈ rest := by
      rw [split]
      exact List.mem_append_right _ (List.mem_cons_self ..)
    have either := (ImportDecl.known_iff (signed i inside)).1 (known i inside)
    have mistaken := either.resolve_left unresolved
    exact ⟨before, i, after, split, resolve, mistaken, offends.of_other mistaken.other⟩

end Links

/-- A look has one line for each import, and approves all of them exactly if each resolves or is
mistaken for one that does. Linking succeeds exactly if all are approved and are functions; where
all are approved and it fails, the first import that is no function is at fault. -/
theorem inspection_misses_kinds (registry : Registry) {settings : Settings}
    (accepted : settings.validate = .ok settings) {m : Wasm.Module} (valid : m.wellFormed = true) :
    let names := settings.imports
    let imports := m.surface.imports
    let lines := inspectImports registry names m.surface
    (lines.map fun line => (line.space, line.name)).Perm
        (imports.map fun i => (i.space, i.name)) ∧
      ((∀ line ∈ lines, line.Approves) ↔
        ∀ i ∈ imports, i.Resolves registry names ∨ i.Mistaken registry names) ∧
      ((∃ l, link registry names m.surface = .ok l) ↔
        (∀ line ∈ lines, line.Approves) ∧ ∀ i ∈ imports, i.kind = .func) ∧
      ∀ cause, (∀ line ∈ lines, line.Approves) → link registry names m.surface = .error cause →
        ∃ before i after, imports = before ++ i :: after ∧
          (∀ j ∈ before, j.Resolves registry names) ∧ i.Mistaken registry names ∧
            cause = .notFunction i.space i.name := by
  intro names imports lines
  have distinct : names.intrinsics ≠ names.host := Settings.distinct_of_validate accepted
  have signed : ∀ i ∈ imports, i.Signed := Wasm.Module.signed_surface valid
  have approved : (∀ line ∈ lines, line.Approves) ↔ ∀ i ∈ imports, i.Known registry names :=
    approves_all distinct m.surface
  have links : Links registry names [] imports (link registry names m.surface) :=
    links_foldlM distinct [] imports Linked.binds_empty
  refine ⟨inspectImports_named distinct m.surface, ?_, ?_, fun cause approves fails => ?_⟩
  · rw [approved]
    exact forall₂_congr fun i inside => ImportDecl.known_iff (signed i inside)
  · rw [links.succeeds_iff, approved, and_comm, ← forall₂_and]
    exact forall₂_congr fun i inside => ImportDecl.resolves_iff (signed i inside)
  · rw [fails] at links
    exact links.blames signed (approved.1 approves)

def Wasm.Module.importing (types : List Signature) (imports : List Wasm.Import) : Wasm.Module :=
  ⟨types, imports, [], [], [], [], [], none, [], none, [], []⟩

/-- A host function, and a memory that goes by the name of an operation. -/
theorem inspection_misses_kinds_mixed :
    let m := Wasm.Module.importing [⟨[.i32, .i32], []⟩]
      [⟨"host", "console_log", .func 0⟩, ⟨"__bridge", "throw", .memory ⟨⟨1, none⟩, false⟩⟩]
    let registry := Command.sampleHost
    ({} : Settings).validate = .ok {} ∧ m.wellFormed = true ∧
      (∀ line ∈ inspectImports registry {} m.surface, line.Approves) ∧
      link registry {} m.surface = .error (.notFunction "__bridge" "throw") ∧
      ∃ before i after, m.surface.imports = before ++ i :: after ∧
        (∀ j ∈ before, j.Resolves registry {}) ∧ i.Mistaken registry {} ∧
          UnresolvedImport.notFunction "__bridge" "throw" = .notFunction i.space i.name := by
  intro m registry
  have accepted : ({} : Settings).validate = .ok {} := by rfl
  have valid : m.wellFormed = true := by rfl
  have approved : ∀ line ∈ inspectImports registry {} m.surface, line.Approves := by decide
  have refused : link registry {} m.surface = .error (.notFunction "__bridge" "throw") := by rfl
  exact ⟨accepted, valid, approved, refused,
    (inspection_misses_kinds registry accepted valid).2.2.2 _ approved refused⟩

/-- A module that imports a memory by the name of an operation. -/
def memoryAsOperation : Wasm.Module :=
  .importing [] [⟨"__bridge", "throw", .memory ⟨⟨1, none⟩, false⟩⟩]

/-- Every line is approved, and linking fails. -/
theorem inspection_approves_memory :
    ¬ ∀ (settings : Settings) (m : Wasm.Module), settings.validate = .ok settings →
      m.wellFormed = true →
      ((∀ line ∈ inspectImports Command.sampleHost settings.imports m.surface, line.Approves) ↔
        ∃ l, link Command.sampleHost settings.imports m.surface = .ok l) := by
  intro agree
  have valid : memoryAsOperation.wellFormed = true := by rfl
  have approved : ∀ line ∈ inspectImports Command.sampleHost {} memoryAsOperation.surface,
      line.Approves := by decide
  obtain ⟨l, linked⟩ := (agree {} memoryAsOperation (by rfl) valid).1 approved
  cases linked

end GuestBridge

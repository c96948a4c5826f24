import GuestBridge.Linking
import Mathlib.Data.List.Induction
import Mathlib.Tactic.Common
/-!
Which imports can be bound, and to what. A list of imports is bound as a whole or not at all; then
each host function that it names stands in the list of capabilities once, and every import of it
leads to that place.
-/

set_option autoImplicit false

namespace GuestBridge

variable {registry : Registry} {names : ImportNames}

/-- What an import must be so that there is something to bind it to. -/
structure ImportDecl.Resolves (registry : Registry) (names : ImportNames) (i : ImportDecl) :
    Prop where
  function : i.kind = .func
  offered : (i.space = names.intrinsics ∧ i.name ∈ Intrinsic.all.map Intrinsic.name) ∨
    i.space = names.host ∧
      ∃ c, registry.get? i.name = some c ∧ i.signature = some c.signature

/-- What is said to be wrong with an import. -/
inductive ImportDecl.Offends (registry : Registry) (names : ImportNames) (i : ImportDecl) :
    UnresolvedImport → Prop
  | notFunction (other : i.kind ≠ .func) : Offends registry names i (.notFunction i.space i.name)
  | unknownIntrinsic (function : i.kind = .func) (here : i.space = names.intrinsics)
    (unknown : i.name ∉ Intrinsic.all.map Intrinsic.name) :
    Offends registry names i (.notFound i.space i.name)
  | elsewhere (function : i.kind = .func) (notIntrinsic : i.space ≠ names.intrinsics)
    (notHost : i.space ≠ names.host) : Offends registry names i (.notFound i.space i.name)
  | unregistered (function : i.kind = .func) (here : i.space = names.host)
    (unknown : registry.get? i.name = none) : Offends registry names i (.notFound i.space i.name)
  | signature (function : i.kind = .func) (here : i.space = names.host) {c : Capability}
    (registered : registry.get? i.name = some c) (different : i.signature ≠ some c.signature) :
    Offends registry names i
      (.signature i.space i.name (i.signature.getD ⟨[], []⟩) c.signature)

/-- The names of the imported host functions, as often as they are imported. -/
def hostNames (names : ImportNames) (imports : List ImportDecl) : List String :=
  (imports.filter fun i => i.space = names.host).map (·.name)

/-- What imports are bound to. -/
structure Linked.Binds (registry : Registry) (names : ImportNames) (imports : List ImportDecl)
    (l : Linked) : Prop where
  /-- In the order of first import. -/
  listed : l.capabilities.map (·.name) = (hostNames names imports).eraseDups
  once : (l.capabilities.map (·.name)).Nodup
  registered : ∀ c ∈ l.capabilities, registry.get? c.name = some c
  all : l.bindings.length = imports.length
  intrinsic : ∀ (k : Nat) (i : ImportDecl), imports[k]? = some i → i.space = names.intrinsics →
    ∃ op, op.name = i.name ∧ l.bindings[k]? = some (.intrinsic op)
  host : ∀ (k : Nat) (i : ImportDecl), imports[k]? = some i → i.space = names.host →
    ∃ index c, l.bindings[k]? = some (.capability index) ∧ l.capabilities[index]? = some c ∧
      registry.get? i.name = some c

theorem Registry.name_get? {name : String} {c : Capability} (found : registry.get? name = some c) :
    c.name = name :=
  eq_of_beq (List.find?_some (p := fun c : Capability => c.name == name) found)

theorem Intrinsic.mem_names_iff (name : String) :
    name ∈ Intrinsic.all.map Intrinsic.name ↔ ∃ op, Intrinsic.ofName? name = some op := by
  unfold ofName?
  rw [← Option.isSome_iff_exists, List.find?_isSome, List.mem_map]
  exact exists_congr fun op => and_congr_right fun _ => beq_iff_eq.symm

theorem Intrinsic.name_ofName? {name : String} {op : Intrinsic}
    (found : Intrinsic.ofName? name = some op) : op.name = name :=
  eq_of_beq (List.find?_some (p := fun i : Intrinsic => i.name == name) found)

/-- An import is bound if it resolves, and otherwise reported. -/
theorem linkImport_cases (distinct : names.intrinsics ≠ names.host) (l : Linked) (i : ImportDecl) :
    (i.Resolves registry names ∧
      ((i.space = names.intrinsics ∧ ∃ op, op.name = i.name ∧
        linkImport registry names l i = .ok (l.bind (.intrinsic op))) ∨
      (i.space = names.host ∧ ∃ c, registry.get? i.name = some c ∧
        linkImport registry names l i = .ok (l.bindCapability c)))) ∨
    (¬ i.Resolves registry names ∧
      ∃ cause, linkImport registry names l i = .error cause ∧ i.Offends registry names cause) := by
  unfold linkImport
  by_cases function : i.kind = .func
  · rw [if_neg (not_not.2 function)]
    by_cases intrinsic : i.space = names.intrinsics
    · have notHost : i.space ≠ names.host := fun host => distinct (intrinsic.symm.trans host)
      rw [if_pos intrinsic]
      rcases found : Intrinsic.ofName? i.name with _ | op
      · have unknown : i.name ∉ Intrinsic.all.map Intrinsic.name := by
          rw [Intrinsic.mem_names_iff, found]
          exact nofun
        refine .inr ⟨fun resolves => ?_, _, rfl, .unknownIntrinsic function intrinsic unknown⟩
        rcases resolves.offered with ⟨-, known⟩ | ⟨host, -⟩
        · exact unknown known
        · exact notHost host
      · refine .inl ⟨⟨function, .inl ⟨intrinsic, ?_⟩⟩, .inl ⟨intrinsic, op, ?_, rfl⟩⟩
        · exact (Intrinsic.mem_names_iff _).2 ⟨op, found⟩
        · exact Intrinsic.name_ofName? found
    · rw [if_neg intrinsic]
      by_cases host : i.space = names.host
      · rw [if_neg (not_not.2 host)]
        rcases found : registry.get? i.name with _ | c
        · refine .inr ⟨fun resolves => ?_, _, rfl, .unregistered function host found⟩
          rcases resolves.offered with ⟨same, -⟩ | ⟨-, c, registered, -⟩
          · exact intrinsic same
          · rw [found] at registered
            cases registered
        · by_cases fits : i.signature = some c.signature
          · refine .inl ⟨⟨function, .inr ⟨host, c, found, fits⟩⟩, .inr ⟨host, c, rfl, ?_⟩⟩
            exact if_pos fits
          · refine .inr ⟨fun resolves => ?_, _, if_neg fits, .signature function host found fits⟩
            rcases resolves.offered with ⟨same, -⟩ | ⟨-, d, registered, same⟩
            · exact intrinsic same
            · rw [found] at registered
              cases registered
              exact fits same
      · rw [if_pos host]
        refine .inr ⟨fun resolves => ?_, _, rfl, .elsewhere function intrinsic host⟩
        rcases resolves.offered with ⟨same, -⟩ | ⟨same, -⟩
        · exact intrinsic same
        · exact host same
  · rw [if_pos function]
    exact .inr ⟨fun resolves => function resolves.function, _, rfl, .notFunction function⟩

theorem hostNames_concat (imports : List ImportDecl) (i : ImportDecl) :
    hostNames names (imports ++ [i]) =
      hostNames names imports ++ if i.space = names.host then [i.name] else [] := by
  unfold hostNames
  rw [List.filter_append, List.map_append]
  by_cases host : i.space = names.host
  · simp only [host, decide_true, List.filter_cons_of_pos, List.filter_nil, ↓reduceIte,
      List.map_cons, List.map_nil]
  · simp only [host, decide_false, Bool.false_eq_true, not_false_eq_true, List.filter_cons_of_neg,
      List.filter_nil, ↓reduceIte, List.map_nil]

theorem eraseDups_concat (known : List String) (name : String) :
    (known ++ [name]).eraseDups = known.eraseDups ++ if name ∈ known then [] else [name] := by
  rw [List.eraseDups_append, List.removeAll]
  by_cases inside : name ∈ known
  · simp [inside]
  · simp [inside]
    rfl

theorem nodup_eraseDups (known : List String) : known.eraseDups.Nodup := by
  induction known using List.reverseRecOn with
  | nil => exact List.nodup_nil
  | append_singleton known name ih =>
    rw [eraseDups_concat]
    by_cases inside : name ∈ known
    · rwa [if_pos inside, List.append_nil]
    · rw [if_neg inside, List.nodup_append]
      refine ⟨ih, List.pairwise_singleton _ name, fun other listed last member same => inside ?_⟩
      rw [← List.mem_singleton.1 member, ← same]
      exact List.mem_eraseDups.1 listed

namespace Linked

variable {l l' : Linked} {imports : List ImportDecl} {i : ImportDecl}

/-- One more import leaves what others are bound to. -/
theorem Binds.extend (binds : l.Binds registry names imports) {b : Binding}
    (more : List Capability) (bindings : l'.bindings = l.bindings ++ [b])
    (capabilities : l'.capabilities = l.capabilities ++ more)
    (listed : l'.capabilities.map (·.name) = (hostNames names (imports ++ [i])).eraseDups)
    (registered : ∀ c ∈ more, registry.get? c.name = some c)
    (intrinsic : i.space = names.intrinsics → ∃ op, op.name = i.name ∧ b = .intrinsic op)
    (host : i.space = names.host → ∃ index c, b = .capability index ∧
      l'.capabilities[index]? = some c ∧ registry.get? i.name = some c) :
    l'.Binds registry names (imports ++ [i]) := by
  have old {k : Nat} (earlier : k < imports.length) : l'.bindings[k]? = l.bindings[k]? := by
    rw [bindings, List.getElem?_append_left (binds.all ▸ earlier)]
  have new : l'.bindings[imports.length]? = some b := by
    rw [bindings, ← binds.all, List.getElem?_concat_length]
  have split {k : Nat} {j : ImportDecl} (here : (imports ++ [i])[k]? = some j) :
      (k < imports.length ∧ imports[k]? = some j) ∨ (k = imports.length ∧ j = i) := by
    rw [List.getElem?_append] at here
    split at here
    case isTrue earlier => exact .inl ⟨earlier, here⟩
    case isFalse later =>
      obtain ⟨last, same⟩ := List.getElem?_eq_some_iff.1 here
      rw [List.length_singleton] at last
      have zero : k - imports.length = 0 := by omega
      simp only [zero, List.getElem_cons_zero] at same
      exact .inr ⟨by omega, same.symm⟩
  constructor
  case listed => exact listed
  case once =>
    rw [listed]
    exact nodup_eraseDups _
  case registered =>
    intro c inside
    rw [capabilities] at inside
    exact (List.mem_append.1 inside).elim (binds.registered c) (registered c)
  case all => rw [bindings, List.length_append, List.length_append, binds.all]; rfl
  case intrinsic =>
    intro k j here space
    rcases split here with ⟨earlier, there⟩ | ⟨rfl, rfl⟩
    · obtain ⟨op, name, bound⟩ := binds.intrinsic k j there space
      exact ⟨op, name, (old earlier).trans bound⟩
    · obtain ⟨op, name, rfl⟩ := intrinsic space
      exact ⟨op, name, new⟩
  case host =>
    intro k j here space
    rcases split here with ⟨earlier, there⟩ | ⟨rfl, rfl⟩
    · obtain ⟨index, c, bound, stands, found⟩ := binds.host k j there space
      refine ⟨index, c, (old earlier).trans bound, ?_, found⟩
      rw [capabilities, List.getElem?_append_left (List.getElem?_eq_some_iff.1 stands).1, stands]
    · obtain ⟨index, c, rfl, stands, found⟩ := host space
      exact ⟨index, c, new, stands, found⟩

theorem Binds.bind_intrinsic (binds : l.Binds registry names imports)
    (notHost : i.space ≠ names.host) {op : Intrinsic} (name : op.name = i.name) :
    (l.bind (.intrinsic op)).Binds registry names (imports ++ [i]) := by
  refine binds.extend [] rfl (List.append_nil _).symm ?_ nofun
    (fun _ => ⟨op, name, rfl⟩) fun host => absurd host notHost
  rw [hostNames_concat, if_neg notHost, List.append_nil]
  exact binds.listed

theorem Binds.bindCapability (binds : l.Binds registry names imports)
    (host : i.space = names.host) (notIntrinsic : i.space ≠ names.intrinsics) {c : Capability}
    (found : registry.get? i.name = some c) :
    (l.bindCapability c).Binds registry names (imports ++ [i]) := by
  have name := Registry.name_get? found
  have known : i.name ∈ hostNames names imports ↔ i.name ∈ l.capabilities.map (·.name) := by
    rw [binds.listed, List.mem_eraseDups]
  unfold Linked.bindCapability
  split
  case h_1 index place =>
    obtain ⟨inside, same, -⟩ := List.findIdx?_eq_some_iff_getElem.1 place
    have stands := List.getElem?_eq_getElem inside
    have same : l.capabilities[index].name = i.name := (eq_of_beq same).trans name
    have listed : i.name ∈ l.capabilities.map (·.name) :=
      same ▸ List.mem_map_of_mem (List.getElem_mem inside)
    refine binds.extend [] rfl (List.append_nil _).symm ?_ nofun
      (fun space => absurd space notIntrinsic)
      fun _ => ⟨index, _, rfl, stands, ?_⟩
    · rw [hostNames_concat, if_pos host, eraseDups_concat, if_pos (known.2 listed), List.append_nil]
      exact binds.listed
    · rw [← same]
      exact binds.registered _ (List.getElem_mem inside)
  case h_2 nowhere =>
    have unlisted : i.name ∉ l.capabilities.map (·.name) := by
      intro inside
      obtain ⟨d, inside, same⟩ := List.mem_map.1 inside
      have different := List.findIdx?_eq_none_iff.1 nowhere d inside
      exact absurd (same.trans name.symm) (ne_of_beq_false different)
    refine binds.extend [c] rfl rfl ?_ (fun d inside => ?_)
      (fun space => absurd space notIntrinsic)
      fun _ => ⟨_, c, rfl, List.getElem?_concat_length, found⟩
    · rw [hostNames_concat, if_pos host, eraseDups_concat, if_neg (mt known.1 unlisted),
        ← binds.listed, ← name]
      exact List.map_append
    · rw [List.mem_singleton.1 inside, name]
      exact found

theorem binds_empty : Linked.empty.Binds registry names [] :=
  ⟨rfl, List.nodup_nil, nofun, rfl, nofun, nofun⟩

end Linked

/-- What linking a list of imports comes to after others were bound. -/
inductive Links (registry : Registry) (names : ImportNames) (imports rest : List ImportDecl) :
    Except UnresolvedImport Linked → Prop
  | bound {l : Linked} (resolve : ∀ i ∈ rest, i.Resolves registry names)
    (binds : l.Binds registry names (imports ++ rest)) : Links registry names imports rest (.ok l)
  | refused {before after : List ImportDecl} {i : ImportDecl} {cause : UnresolvedImport}
    (split : rest = before ++ i :: after) (resolve : ∀ j ∈ before, j.Resolves registry names)
    (unresolved : ¬ i.Resolves registry names) (offends : i.Offends registry names cause) :
    Links registry names imports rest (.error cause)

theorem links_foldlM (distinct : names.intrinsics ≠ names.host) (imports rest : List ImportDecl)
    {l : Linked} (binds : l.Binds registry names imports) :
    Links registry names imports rest (rest.foldlM (linkImport registry names) l) := by
  induction rest generalizing imports l with
  | nil => exact .bound nofun (by rwa [List.append_nil])
  | cons i rest ih =>
    rw [List.foldlM_cons]
    rcases linkImport_cases distinct l i with
      ⟨resolves, bound⟩ | ⟨unresolved, cause, refused, offends⟩
    · obtain ⟨l', done, binds⟩ : ∃ l', linkImport registry names l i = .ok l' ∧
          l'.Binds registry names (imports ++ [i]) := by
        rcases bound with ⟨intrinsic, op, name, done⟩ | ⟨host, c, found, done⟩
        · have notHost : i.space ≠ names.host := fun host => distinct (intrinsic.symm.trans host)
          exact ⟨_, done, binds.bind_intrinsic notHost name⟩
        · have notIntrinsic : i.space ≠ names.intrinsics :=
            fun intrinsic => distinct (intrinsic.symm.trans host)
          exact ⟨_, done, binds.bindCapability host notIntrinsic found⟩
      rw [done]
      have onward := ih (imports ++ [i]) binds
      change Links registry names imports (i :: rest) (rest.foldlM (linkImport registry names) l')
      generalize rest.foldlM (linkImport registry names) l' = outcome at onward
      cases onward with
      | bound resolve binds =>
        rw [List.append_assoc] at binds
        exact .bound (List.forall_mem_cons.2 ⟨resolves, resolve⟩) binds
      | @refused before after j cause split resolve unresolved offends =>
        have split : i :: rest = (i :: before) ++ j :: after := congrArg (i :: ·) split
        exact .refused split (List.forall_mem_cons.2 ⟨resolves, resolve⟩) unresolved offends
    · rw [refused]
      exact .refused (List.nil_append _).symm nofun unresolved offends

/-- Linking succeeds exactly if all imports resolve, and binds each of them; otherwise it reports
the first that does not. -/
theorem imports_resolve_exactly (registry : Registry) {names : ImportNames}
    (distinct : names.intrinsics ≠ names.host) (s : Surface) :
    ((∃ l, link registry names s = .ok l) ↔ ∀ i ∈ s.imports, i.Resolves registry names) ∧
    (∀ cause, link registry names s = .error cause → ∃ before i after,
      s.imports = before ++ i :: after ∧ (∀ j ∈ before, j.Resolves registry names) ∧
        ¬ i.Resolves registry names ∧ i.Offends registry names cause) ∧
    ∀ l, link registry names s = .ok l → l.Binds registry names s.imports := by
  have start : Linked.empty.Binds registry names [] := Linked.binds_empty
  have links := links_foldlM distinct [] s.imports start
  change Links registry names [] s.imports (link registry names s) at links
  generalize link registry names s = outcome at links
  cases links with
  | @bound l resolve binds =>
    refine ⟨⟨fun _ => resolve, fun _ => ⟨l, rfl⟩⟩, nofun, fun l' same => ?_⟩
    cases same
    exact binds
  | @refused before after i cause split resolve unresolved offends =>
    refine ⟨⟨nofun, fun all => ?_⟩, fun cause' same => ?_, nofun⟩
    · have inside : i ∈ s.imports := split ▸ List.mem_append_right _ (List.mem_cons_self ..)
      exact absurd (all i inside) unresolved
    · cases same
      exact ⟨before, i, after, split, resolve, unresolved, offends⟩

/-- One host function is imported twice, with an operation of the bridge and another host function
between. -/
theorem imports_resolve_exactly_mixed :
    let log := Capability.idle "log" [.text] .unit false
    let now := Capability.idle "now" [] .f64 false
    let registry := Registry.empty.defineAll [now, log, .idle "trace" [] .unit false]
    let names : ImportNames := {}
    let wanted : ImportDecl := ⟨"host", "log", .func, some ⟨[.i32, .i32], []⟩⟩
    let s : Surface := ⟨[wanted, ⟨"__bridge", "throw", .func, none⟩,
      ⟨"host", "now", .func, some ⟨[], [.f64]⟩⟩, wanted], []⟩
    let l : Linked :=
      ⟨[log, now], [.capability 0, .intrinsic .throw, .capability 1, .capability 0]⟩
    names.intrinsics ≠ names.host ∧ link registry names s = .ok l ∧
      l.Binds registry names s.imports := by
  intro log now registry names wanted s l
  have distinct : names.intrinsics ≠ names.host := by decide
  have linked : link registry names s = .ok l := by rfl
  exact ⟨distinct, linked, (imports_resolve_exactly registry distinct s).2.2 l linked⟩

end GuestBridge

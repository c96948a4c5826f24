import GuestBridge.Proofs.Elements.Content
import GuestBridge.Proofs.Facilities
/-!
A page in the hands of callers, who ask for its body, look elements up by their ids, and do with
elements what they like. The document holds its body, so that a look-up always has where to begin.
What callers read follows document order at any time.
-/

set_option autoImplicit false

namespace GuestBridge

namespace Host.Page

/-- The document holds its body. -/
def bodyHolds (host : Host) (e : Nat) : Nat :=
  if host.extensions.get? .document = some e then 1 else 0

theorem perform_bodyElement (host : Host) : bodyElement.run.run host =
    match host.extensions.get? .document with
    | some body => (.ok body, host)
    | none => (.ok host.realm.elements.size,
        { host with
          realm := { host.realm with elements := (host.realm.elements.create "body").2 }
          extensions := host.extensions.set .document host.realm.elements.size }) := by
  have begun : bodyElement.run.run host =
      ((match host.extensions.get? .document with
        | some body => return body
        | none => do
          let body ← HostCall.inRealm (·.newElement "body")
          HostCall.setFacility .document body
          return body : HostCall Nat).run.run host) := rfl
  rw [begun]
  cases host.extensions.get? .document <;> rfl

theorem perform_getElementById {host shown : Host} {body : Nat}
    (asked : bodyElement.run.run host = (.ok body, shown)) (id : String) :
    (getElementById [.string id]).run.run host =
      if id = "" then (.ok .null, shown)
      else match shown.realm.elements.findById body id with
        | some e => (.ok (.element e), { shown with realm := shown.realm.hold (.element e) })
        | none => (.ok .null, shown) := by
  have begun : (getElementById [.string id]).run.run host =
      ((if id.isEmpty = true then return .null
        else do
          match (← HostCall.getRealm).elements.findById body id with
          | some e => HostCall.sharing (.element e)
          | none => return .null : HostCall Value).run.run shown) := by
    unfold getElementById
    rw [HostCall.perform_bind, asked]
    rfl
  rw [begun]
  by_cases empty : id = ""
  · rw [if_pos empty, if_pos (String.isEmpty_iff.2 empty)]
    rfl
  · rw [if_neg empty, if_neg fun none => empty (String.isEmpty_iff.1 none)]
    rw [HostCall.perform_bind]
    change ((match shown.realm.elements.findById body id with
      | some e => HostCall.sharing (.element e)
      | none => return .null : HostCall Value).run.run shown) = _
    cases shown.realm.elements.findById body id <;> rfl

end Host.Page

/-- An operation needs no more than what callers hold: whatever holds elements besides makes no
difference to it. -/
theorem Grove.step_besides (g : Grove) (op : ElementOp) (besides : Nat → Nat) :
    g.step op = g ∨
      (⟨g.realm, fun e => g.owned e + besides e⟩ : Grove).step op =
        ⟨(g.step op).realm, fun e => (g.step op).owned e + besides e⟩ := by
  cases op with
  | new tag =>
    refine .inr (congrArg (Grove.mk _) (funext fun e => ?_))
    exact Nat.add_right_comm ..
  | append p c =>
    by_cases there : g.elements.contains p = true ∧ g.elements.contains c = true
    · simp only [Grove.step, Grove.elements] at there ⊢
      simp only [there, and_self, ↓reduceIte]
      rcases g.realm.elements.append p c with failure | elements
      · exact .inl rfl
      · exact .inr rfl
    · exact .inl (if_neg there)
  | setText e text =>
    by_cases there : g.elements.contains e = true
    · have done : g.step (.setText e text) = ⟨_, g.owned⟩ := if_pos there
      exact .inr (done ▸ if_pos there)
    · exact .inl (if_neg there)
  | setId e id =>
    by_cases there : g.elements.contains e = true
    · have done : g.step (.setId e id) = ⟨_, g.owned⟩ := if_pos there
      exact .inr (done ▸ if_pos there)
    · exact .inl (if_neg there)
  | keep e =>
    by_cases there : g.elements.contains e = true
    · have done : g.step (.keep e) = ⟨_, fun c => g.owned c + if e = c then 1 else 0⟩ :=
        if_pos there
      rw [done]
      refine .inr ((if_pos there).trans (congrArg (Grove.mk _) (funext fun c => ?_)))
      exact Nat.add_right_comm ..
    · exact .inl (if_neg there)
  | letGo e =>
    by_cases mine : 0 < g.owned e
    · have most : 0 < g.owned e + besides e := Nat.add_pos_left mine _
      simp only [Grove.step, mine, most, ↓reduceIte]
      refine .inr (congrArg (Grove.mk _) (funext fun c => ?_))
      split
      · next same => subst same; omega
      · rfl
    · exact .inl (if_neg mine)

/-- A host, and how often callers hold each of its elements. -/
structure OpenPage where
  host : Host
  owned : Nat → Nat

inductive PageOp
  | body
  | find (id : String)
  | element (op : ElementOp)

namespace OpenPage

open Elements Host.Page

def elements (page : OpenPage) : Elements := page.host.realm.elements

/-- No elements yet, and hence no document. -/
def start (host : Host) : OpenPage :=
  ⟨{ host with realm := { host.realm with elements := .empty }, extensions := .empty }, fun _ => 0⟩

/-- Makes a call, and holds the element that it yields. -/
def receive (page : OpenPage) (call : HostCall Value) : OpenPage :=
  match call.run.run page.host with
  | (.ok (.element e), host) => ⟨host, fun c => page.owned c + if e = c then 1 else 0⟩
  | (_, host) => { page with host := host }

def step (page : OpenPage) : PageOp → OpenPage
  | .body => page.receive (body [])
  | .find id => page.receive (getElementById [.string id])
  | .element op =>
    let grove := (⟨page.host.realm, page.owned⟩ : Grove).step op
    ⟨{ page.host with realm := grove.realm }, grove.owned⟩

def run (page : OpenPage) (ops : List PageOp) : OpenPage := ops.foldl step page

/-- How often an element is held outside of the tree. -/
def held (page : OpenPage) (e : Nat) : Nat := page.owned e + bodyHolds page.host e

def Tidy (page : OpenPage) : Prop := page.elements.Tidy page.held []

variable {page : OpenPage}

theorem start_tidy (host : Host) : (start host).Tidy := empty_tidy

theorem Tidy.there_of_document (tidy : page.Tidy) {body : Nat}
    (kept : page.host.extensions.get? .document = some body) :
    page.elements.contains body = true := by
  apply Pool.contains_of_holders
  rw [tidy.count body, held, bodyHolds, if_pos kept]
  omega

theorem tidy_of_held {held : Nat → Nat} (tidy : page.elements.Tidy held [])
    (same : ∀ e, page.held e = held e) : page.Tidy := by
  unfold OpenPage.Tidy
  rwa [funext same]

/-- The first who asks for the body makes the document, which holds the body from then on. -/
theorem Tidy.body_made (tidy : page.Tidy) (none : page.host.extensions.get? .document = none) :
    (⟨{ page.host with
        realm := { page.host.realm with elements := (page.elements.create "body").2 }
        extensions := page.host.extensions.set .document page.elements.size },
      page.owned⟩ : OpenPage).Tidy := by
  refine tidy_of_held (Elements.Tidy.create tidy "body") fun e => ?_
  simp only [held, bodyHolds, none, Extensions.get?_set, Option.some.injEq, reduceCtorEq,
    ↓reduceIte, Nat.add_zero]

/-- Whoever asks for the body gets the one that the document holds. -/
structure Shown (page : OpenPage) (body : Nat) (shown : Host) : Prop where
  asked : bodyElement.run.run page.host = (.ok body, shown)
  document : shown.extensions.get? .document = some body
  tidy : (⟨shown, page.owned⟩ : OpenPage).Tidy
  there : shown.realm.elements.contains body = true

theorem Tidy.shown (tidy : page.Tidy) : ∃ body shown, page.Shown body shown := by
  have asked := perform_bodyElement page.host
  rcases kept : page.host.extensions.get? .document with _ | body
  · rw [kept] at asked
    have made := tidy.body_made kept
    have document := Extensions.get?_set page.host.extensions .document page.elements.size
    exact ⟨_, _, asked, document, made, made.there_of_document document⟩
  · rw [kept] at asked
    exact ⟨body, page.host, asked, kept, tidy, tidy.there_of_document kept⟩

/-- One more caller holds the element. -/
theorem Tidy.keep (tidy : page.Tidy) {e : Nat} (there : page.elements.contains e = true) :
    (⟨{ page.host with realm := page.host.realm.hold (.element e) },
      fun c => page.owned c + if e = c then 1 else 0⟩ : OpenPage).Tidy := by
  exact tidy_of_held (Elements.Tidy.keep tidy there) fun c => Nat.add_right_comm ..

theorem Tidy.there_of_reaches (tidy : page.Tidy) {e d : Nat}
    (there : page.elements.contains e = true) (reaches : page.elements.Reaches e d) :
    page.elements.contains d = true := by
  rcases Relation.ReflTransGen.cases_tail reaches with same | ⟨q, -, above⟩
  · exact same ▸ there
  · exact Elements.Tidy.there tidy ((Elements.Tidy.linked tidy q d).2 above)

theorem Tidy.step (tidy : page.Tidy) (op : PageOp) : (page.step op).Tidy := by
  cases op with
  | body =>
    obtain ⟨body, shown, found⟩ := tidy.shown
    have called : (Host.Page.body []).run.run page.host =
        (.ok (.element body), { shown with realm := shown.realm.hold (.element body) }) := by
      unfold Host.Page.body
      rw [HostCall.perform_bind, found.asked]
      rfl
    simp only [OpenPage.step, receive, called]
    exact found.tidy.keep found.there
  | find id =>
    obtain ⟨body, shown, found⟩ := tidy.shown
    simp only [OpenPage.step, receive, perform_getElementById found.asked]
    by_cases empty : id = ""
    · rw [if_pos empty]
      exact found.tidy
    · rw [if_neg empty]
      rcases named : shown.realm.elements.findById body id with _ | e
      · exact found.tidy
      · have first := Elements.Tidy.firstById_of_findById found.tidy found.there named
        exact found.tidy.keep (found.tidy.there_of_reaches found.there first.connected)
  | element op =>
    rcases Grove.step_besides ⟨page.host.realm, page.owned⟩ op (bodyHolds page.host) with
      same | later
    · simp only [OpenPage.step, same]
      exact tidy
    · have whole : (⟨page.host.realm, page.held⟩ : Grove).step op = _ := later
      have after := Grove.Tidy.step (g := ⟨page.host.realm, page.held⟩) tidy op
      rw [whole] at after
      exact after

theorem Tidy.run (tidy : page.Tidy) (ops : List PageOp) : (page.run ops).Tidy := by
  induction ops generalizing page with
  | nil => exact tidy
  | cons op rest ih => exact ih (tidy.step op)

/-- What the queries come to on a page. -/
structure InDocumentOrder (page : OpenPage) : Prop where
  /-- There is one list of an element and all below it in document order, and the text of the
  element is that of the list. -/
  content : ∀ e, page.elements.contains e = true →
    ∃ l, (∀ l', page.elements.InOrder e l' ↔ l' = l) ∧
      (textContent [.element e]).run.run page.host =
        (.ok (.string (String.join (l.map fun d => (page.elements.get d).text))), page.host)
  replaced : ∀ e, page.elements.contains e = true → ∀ text, ∃ after,
    (setTextContent [.element e, .string text]).run.run page.host = (.ok .undefined, after) ∧
      Replaced page.elements after.realm.elements page.held e text ∧
      (textContent [.element e]).run.run after = (.ok (.string text), after)
  /-- The document holds a body, if need be a new one, and look-ups begin there. -/
  lookup : ∃ body shown, bodyElement.run.run page.host = (.ok body, shown) ∧
    (page.host.extensions.get? .document = some body → shown = page.host) ∧ ∀ id,
      (((getElementById [.string id]).run.run page.host).1 = .ok .null ↔
        id = "" ∨ ∀ d, shown.realm.elements.Reaches body d → (shown.realm.elements.get d).id ≠ id) ∧
      ∀ d, ((getElementById [.string id]).run.run page.host).1 = .ok (.element d) ↔
        id ≠ "" ∧ shown.realm.elements.FirstById body id d

theorem Tidy.inDocumentOrder (tidy : page.Tidy) : page.InDocumentOrder where
  content e there := by
    refine ⟨page.elements.preorder e, fun l => ⟨Elements.Tidy.eq_preorder tidy there, ?_⟩, rfl⟩
    rintro rfl
    exact Elements.Tidy.inOrder_preorder tidy there
  replaced e there text := by
    have replaced := Elements.Tidy.replaced tidy there text
    refine ⟨_, rfl, replaced, ?_⟩
    exact congrArg (fun text => ((.ok (.string text), _) : Except Failure Value × Host))
      replaced.content
  lookup := by
    obtain ⟨body, shown, found⟩ := tidy.shown
    refine ⟨body, shown, found.asked, fun kept => ?_, fun id => ?_⟩
    · have asked := found.asked
      rw [perform_bodyElement, kept] at asked
      exact (congrArg Prod.snd asked).symm
    · rw [perform_getElementById found.asked]
      by_cases empty : id = ""
      · simp only [empty, ↓reduceIte, true_or, ne_eq, not_true_eq_false, false_and, reduceCtorEq,
          Except.ok.injEq, implies_true, and_self]
      · have forest : shown.realm.elements.Tidy _ [] := found.tidy
        have none := forest.findById_eq_none found.there id
        have some (d) := forest.findById_eq_some (d := d) found.there id
        rw [if_neg empty, or_iff_right empty, ← none]
        simp only [ne_eq, empty, not_false_eq_true, true_and]
        constructor
        · cases shown.realm.elements.findById body id <;> simp
        · intro d
          refine Iff.trans ?_ (some d)
          cases shown.realm.elements.findById body id <;> simp

/-- However callers have come to it, what they read follows document order. -/
theorem queries_follow_document_order (host : Host) (ops : List PageOp) :
    ((start host).run ops).InDocumentOrder :=
  ((start_tidy host).run ops).inDocumentOrder

/-- Of two elements with one id, the older one is found no longer once it has been moved behind the
other. -/
example :
    let twins : List PageOp := [.body, .element (.new "p"), .element (.new "p"),
      .element (.setId 1 "x"), .element (.setId 2 "x"), .element (.append 0 1),
      .element (.append 0 2), .element (.append 0 1)]
    ((getElementById [.string "x"]).run.run ((start .empty).run twins).host).1 =
      .ok (.element 2) := by
  rfl

end OpenPage

end GuestBridge

import Mathlib.Algebra.Order.Group.Multiset
import PanelPuzzle.Making.Workbench
/-!
# The scene on a workbench

What becomes of ids, plugs and sockets does not depend on where things lie, nor on the draws.  The
`Scene` of a workbench is the rest of it: the elements and what can be covered of them, the pool and
the placements, the last number, and what the events tell of deposits.

Every operation of the workbench that changes the scene has its counterpart here.  An id tells the
shape and the number of its element, so ids of new elements are new.
-/

namespace PanelPuzzle

/-! ## Ids -/

/-- The id of an element of a shape with a number. -/
def Shape.idOf (shape : Shape) (n : Nat) : String :=
  String.ofList (shape.code :: Nat.toDigits 10 n)

/-- **An id tells its shape and its number.** -/
lemma Shape.idOf_inj {s t : Shape} {m n : Nat} (h : s.idOf m = t.idOf n) : s = t ∧ m = n := by
  have hlist := congrArg String.toList h
  rw [idOf, idOf, String.toList_ofList, String.toList_ofList, List.cons.injEq] at hlist
  obtain ⟨hcode, hdigits⟩ := hlist
  refine ⟨Option.some.inj ?_, ?_⟩
  · rw [← ofCode?_code s, ← ofCode?_code t, hcode]
  · rw [← Nat.ofDigitChars_ten_toDigits (n := m), ← Nat.ofDigitChars_ten_toDigits (n := n), hdigits]

/-- An element with a number, and nothing else about it. -/
def Element.numbered (shape : Shape) (width height : Number) (n : Nat) : Element :=
  { id := shape.idOf n, shape, width, height }

/-! ## What events tell -/

namespace Event

/-- The id and the origin of a plug that was put into the pool. -/
def deposit? : Event → Option (String × Nat)
  | plugDeposited id origin => some (id, origin)
  | _ => none

/-- The id of a socket that waits for two halves. -/
def halved? : Event → Option String
  | semicirclePlaced id _ => some id
  | _ => none

/-- An event that tells nothing of plugs and sockets. -/
def IsIdle (event : Event) : Prop := event.deposit? = none ∧ event.halved? = none

end Event

/-! ## Scenes -/

/-- **The scene on a workbench.** -/
structure Scene where
  index : Nat
  elements : List Element
  coverables : List Coverable
  pool : Multiset Plug
  placements : List Placement
  lastId : Nat
  /-- The ids and origins of the plugs that were put into the pool, the latest first. -/
  deposits : List (String × Nat)
  /-- The ids of the sockets that wait for two halves, the latest first. -/
  halved : List String

/-- The scene of a workbench. -/
def Workbench.scene (b : Workbench) : Scene where
  index := b.draft.index
  elements := b.draft.elements
  coverables := b.draft.coverables
  pool := b.session.pool.plugs
  placements := b.session.placements
  lastId := b.session.lastId
  deposits := b.session.events.filterMap Event.deposit?
  halved := b.session.events.filterMap Event.halved?

namespace Scene

/-- The ids of the elements. -/
def ids (v : Scene) : List String := v.elements.map (·.id)

/-- The id that the next element gets. -/
def nextId (v : Scene) (shape : Shape) : String := shape.idOf (v.lastId + 1)

/-- The next element of a shape and a size. -/
def fresh (v : Scene) (shape : Shape) (width height : Number) : Element :=
  .numbered shape width height (v.lastId + 1)

/-- The scene when one more number has been given. -/
def tick (v : Scene) : Scene := { v with lastId := v.lastId + 1 }

/-- The scene with one more element. -/
def push (v : Scene) (e : Element) : Scene := { v with elements := v.elements ++ [e] }

/-- The scene with one more thing to cover. -/
def addCoverable (v : Scene) (c : Coverable) : Scene := { v with coverables := v.coverables ++ [c] }

/-- The scene with the element at a place as coverable. -/
def cover (v : Scene) (place : Nat) (role : CoverRole) : Scene :=
  match v.elements[place]? with
  | some e => v.addCoverable (Draft.coverableOf e place role)
  | none => v

/-- The scene with the element at a place changed. -/
def modifyElement (v : Scene) (place : Nat) (change : Element → Element) : Scene :=
  { v with elements := v.elements.modify place change }

/-- The scene with the coverable at a place changed. -/
def modifyCoverable (v : Scene) (place : Nat) (change : Coverable → Coverable) : Scene :=
  { v with coverables := v.coverables.modify place change }

/-- The scene with other plugs in the pool. -/
def withPool (v : Scene) (pool : Multiset Plug) : Scene := { v with pool }

/-- The scene with plugs that are in hand put back into the pool. -/
def hold (v : Scene) (hand : Multiset Plug) : Scene := v.withPool (v.pool + hand)

/-- The scene after it was noted that a plug is in the pool. -/
def noteDeposit (v : Scene) (plug : Plug) : Scene :=
  { v with deposits := (plug.element.id, plug.origin) :: v.deposits }

/-- The scene with one more plug in the pool. -/
def deposit (v : Scene) (plug : Plug) : Scene := (v.withPool (plug ::ₘ v.pool)).noteDeposit plug

/-- The scene with one more placement on this panel. -/
def record (v : Scene) (plug : Plug) : Scene :=
  { v with placements := v.placements ++ [⟨plug.element.id, plug.origin, v.index⟩] }

/-- The scene with one more socket for halves. -/
def noteHalved (v : Scene) (id : String) : Scene := { v with halved := id :: v.halved }

/-- The next plug for this panel. -/
def freshPlug (v : Scene) (shape : Shape) (width height : Number) (color : UInt8) (remote : Bool) :
    Plug :=
  { element := { v.fresh shape width height with
      elevation := .raised, color := .plain color }.interact .drag .none 0
    origin := v.index
    remote }

/-- What is in a list after a change at one place was in it before, or comes from the change. -/
lemma exists_of_mem_modify {α : Type} {items : List α} {place : Nat} {change : α → α} {a : α}
    (h : a ∈ items.modify place change) : ∃ b ∈ items, a = b ∨ a = change b := by
  obtain ⟨i, hi⟩ := List.mem_iff_getElem?.mp h
  rw [List.getElem?_modify, Option.map_eq_map, Option.map_eq_some_iff] at hi
  obtain ⟨b, hb, rfl⟩ := hi
  refine ⟨b, List.mem_of_getElem? hb, ?_⟩
  split
  · exact .inr rfl
  · exact .inl rfl

/-- What comes after a list, when one thing is added to it, is that thing. -/
lemma eq_of_getElem?_concat {α : Type} {items : List α} {a b : α} {i : Nat}
    (h : (items ++ [a])[i]? = some b) (hi : items.length ≤ i) : i = items.length ∧ b = a := by
  have hlt := (List.getElem?_eq_some_iff.mp h).1
  rw [List.length_append, List.length_singleton] at hlt
  obtain rfl : i = items.length := by omega
  exact ⟨rfl, Option.some.inj (h.symm.trans List.getElem?_concat_length)⟩

lemma ids_push (v : Scene) (e : Element) : (v.push e).ids = v.ids ++ [e.id] := List.map_append

lemma ids_modifyElement {v : Scene} {place : Nat} {change : Element → Element}
    (h : ∀ e, (change e).id = e.id) : (v.modifyElement place change).ids = v.ids := by
  refine List.ext_getElem? fun i => ?_
  rw [ids, ids, List.getElem?_map, List.getElem?_map, modifyElement, List.getElem?_modify]
  cases v.elements[i]? with
  | none => rfl
  | some e =>
    rw [Option.map_eq_map, Option.map_some, Option.map_some, Option.map_some, apply_ite Element.id,
      h, ite_self]

lemma cover_of_getElem? {v : Scene} {place : Nat} {e : Element} (h : v.elements[place]? = some e)
    (role : CoverRole) : v.cover place role = v.addCoverable (Draft.coverableOf e place role) := by
  rw [cover, h]

lemma getElem?_concat_push (v : Scene) (e : Element) :
    (v.push e).elements[v.elements.length]? = some e := List.getElem?_concat_length

/-- What is in hand and what is left make up the pool. -/
lemma hold_withPool {v : Scene} {rest hand : Multiset Plug} (h : v.pool = rest + hand) :
    (v.withPool rest).hold hand = v := by
  rw [hold, withPool, withPool, ← h]

lemma hold_zero (v : Scene) : v.hold 0 = v := by
  rw [hold, withPool, add_zero]

end Scene

end PanelPuzzle

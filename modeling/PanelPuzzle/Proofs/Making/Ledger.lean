import PanelPuzzle.Proofs.Making.Moves
/-!
# What becomes of ids and plugs

For ids and plugs alone there are fewer moves: an element is pushed, a plug is deposited, or a plug
of the pool is pushed.  `Scene.Step` lists these, and `Move.steps` reads every move as some of them.
Three things are kept by each step.

* `Scene.Distinct` — **ids are given once.**  No two elements and plugs, on this panel, on the others
  or in the pool, share an id, and each id is made of a shape and a number that was given already.
* `Scene.Closed` — **actions stay on the panel:** each acts on an element that is there.
* `Scene.Balanced` — **plugs are kept.**  What was deposited is in the pool or has a placement, and
  not both; who was placed on this panel is on it and came from an earlier one.

`Scene.Later` tells what the events of a later scene can add to those of an earlier one.
-/

namespace PanelPuzzle

/-- An id that is made of a shape and a number up to `n`. -/
def Named (n : Nat) (id : String) : Prop := ∃ shape k, 0 < k ∧ k ≤ n ∧ id = Shape.idOf shape k

/-- An element whose id is made of its shape and a number up to `n`. -/
def Element.Numbered (n : Nat) (e : Element) : Prop := ∃ k, 0 < k ∧ k ≤ n ∧ e.id = e.shape.idOf k

lemma Element.Numbered.named {n : Nat} {e : Element} (h : e.Numbered n) : Named n e.id :=
  ⟨e.shape, h⟩

lemma Element.Numbered.mono {n m : Nat} {e : Element} (h : e.Numbered n) (hle : n ≤ m) :
    e.Numbered m :=
  let ⟨k, hpos, hk, hid⟩ := h
  ⟨k, hpos, hk.trans hle, hid⟩

lemma Named.mono {n m : Nat} {id : String} (h : Named n id) (hle : n ≤ m) : Named m id :=
  let ⟨shape, k, hpos, hk, hid⟩ := h
  ⟨shape, k, hpos, hk.trans hle, hid⟩

/-- **The next id is new.** -/
lemma Named.ne_next {n : Nat} {id : String} (h : Named n id) (shape : Shape) :
    id ≠ shape.idOf (n + 1) := by
  obtain ⟨_, k, -, hk, rfl⟩ := h
  intro heq
  have hnumber := (Shape.idOf_inj heq).2
  omega

/-- The id and the origin of a plug. -/
def Plug.entry (p : Plug) : String × Nat := (p.element.id, p.origin)

/-- The id and the origin of a plug that was placed. -/
def Placement.entry (q : Placement) : String × Nat := (q.id, q.origin)

namespace Scene

variable {phase : Phase} {v v' v'' : Scene}

/-! ## Steps -/

/-- What can happen to ids and plugs. -/
inductive Step (v : Scene) : Scene → Prop
  | push {e : Element} : e.id = v.nextId e.shape → v.Reaches e → Step v (v.tick.push e)
  | deposit {p : Plug} : v.NewPlug p → Step v (v.tick.deposit p)
  | place {p : Plug} {rest : Multiset Plug} {e : Element} : v.pool = p ::ₘ rest →
      p.origin ≠ v.index → e.id = p.element.id → e.shape = p.element.shape → v.Reaches e →
      Step v (((v.withPool rest).push e).record p)
  /-- An element changes in what neither ids nor actions tell. -/
  | modify {place : Nat} {change : Element → Element} : (∀ e, (change e).id = e.id ∧
      (change e).shape = e.shape ∧ (change e).actions = e.actions) →
      Step v (v.modifyElement place change)
  | cover {coverables : List Coverable} : Step v { v with coverables }
  | noted {p : Plug} : p ∈ v.pool → Step v (v.noteDeposit p)
  /-- The next element is noted as a socket for halves. -/
  | halved {id : String} : (∃ shape, id = v.nextId shape) → Step v (v.noteHalved id)

/-- One scene comes from another by steps. -/
def Steps : Scene → Scene → Prop := Relation.ReflTransGen Step

/-- **A move is made of steps.** -/
lemma Move.steps (h : v.Move phase v') : v.Steps v' := by
  cases h with
  | add hid _ hreaches _ => exact .single (.push hid hreaches)
  | socket _ he hp _ =>
    refine .tail (.single (.push he.id_eq ?_)) (.deposit ⟨hp.id_eq, hp.origin, hp.plain⟩)
    rw [Reaches, he.actions]
    exact List.forall_mem_nil _
  | @halves e _ a b _ he ha hb _ =>
    have hnoted : v.Step (v.noteHalved e.id) := .halved ⟨e.shape, he.id_eq⟩
    have hpushed : (v.noteHalved e.id).Step ((v.noteHalved e.id).tick.push e) := by
      refine .push he.id_eq ?_
      rw [Reaches, he.actions]
      exact List.forall_mem_nil _
    exact ((Relation.ReflTransGen.single hnoted).tail hpushed).tail
      (.deposit ⟨ha.id_eq, ha.origin, ha.plain⟩) |>.tail (.deposit ⟨hb.id_eq, hb.origin, hb.plain⟩)
  | exit _ he hball _ =>
    refine .tail (.single (.push he.id_eq ?_)) (.push hball.id_eq ?_)
    · rw [Reaches, he.actions]
      exact List.forall_mem_nil _
    · rw [Reaches, hball.actions]
      exact List.forall_mem_nil _
  | place hpool horigin hid hshape _ hreaches _ =>
    exact .single (.place hpool horigin hid hshape hreaches)
  | lock => exact .single (.modify fun _ => ⟨rfl, rfl, rfl⟩)
  | resize => exact .single (.modify fun _ => ⟨rfl, rfl, rfl⟩)
  | cover | mark => exact .single .cover
  | noted hp => exact .single (.noted hp)

lemma Leads.steps (h : v.Leads phase v') : v.Steps v' := by
  induction h with
  | refl => exact .refl
  | tail _ hmove ih => exact ih.trans hmove.steps

/-- What every step keeps is kept by steps. -/
lemma Steps.keeps {I : Scene → Prop} (hI : ∀ {v v'}, I v → Step v v' → I v') (h : v.Steps v')
    (hv : I v) : I v' := by
  induction h with
  | refl => exact hv
  | tail _ hstep ih => exact hI ih hstep

lemma Steps.index_eq (h : v.Steps v') : v'.index = v.index :=
  h.keeps (I := fun w => w.index = v.index) (fun hindex hstep => by cases hstep <;> exact hindex) rfl

/-! ## Ids -/

/-- The ids of the elements on the panel and of the plugs in the pool. -/
def live (v : Scene) : Multiset String := v.ids + v.pool.map (·.element.id)

lemma live_push (v : Scene) (e : Element) : (v.push e).live = e.id ::ₘ v.live := by
  rw [live, ids_push, ← Multiset.coe_add, Multiset.coe_singleton, add_comm (v.ids : Multiset String),
    Multiset.singleton_add, Multiset.cons_add]
  rfl

lemma live_deposit (v : Scene) (p : Plug) : (v.deposit p).live = p.element.id ::ₘ v.live :=
  (congrArg _ (Multiset.map_cons _ _ _)).trans (Multiset.add_cons _ _ _)

/-- A plug that is placed keeps its id. -/
lemma live_place {p : Plug} {rest : Multiset Plug} {e : Element} (hpool : v.pool = p ::ₘ rest)
    (hid : e.id = p.element.id) : (((v.withPool rest).push e).record p).live = v.live := by
  refine (live_push _ e).trans ?_
  rw [live, live, hpool, Multiset.map_cons, Multiset.add_cons, hid]
  rfl

/-- **Ids are given once:** none is on the panel, in the pool or among those of other panels twice,
and all of them are made of numbers that were given already. -/
structure Distinct (others : Multiset String) (v : Scene) : Prop where
  nodup : (others + v.live).Nodup
  others : ∀ id ∈ others, Named v.lastId id
  elements : ∀ e ∈ v.elements, e.Numbered v.lastId
  plugs : ∀ p ∈ v.pool, p.element.Numbered v.lastId

namespace Distinct

variable {others : Multiset String}

lemma named (h : v.Distinct others) : ∀ id ∈ others + v.live, Named v.lastId id := by
  intro id hid
  rcases Multiset.mem_add.mp hid with hid | hid
  · exact h.others id hid
  rcases Multiset.mem_add.mp hid with hid | hid
  · obtain ⟨e, he, rfl⟩ := List.mem_map.mp (Multiset.mem_coe.mp hid)
    exact (h.elements e he).named
  · obtain ⟨p, hp, rfl⟩ := Multiset.mem_map.mp hid
    exact (h.plugs p hp).named

/-- **The next id is none of those there are.** -/
lemma nextId_not_mem (h : v.Distinct others) (shape : Shape) :
    v.nextId shape ∉ others + v.live := fun hmem => (h.named _ hmem).ne_next shape rfl

/-- **A step gives no id twice.** -/
lemma step (h : v.Distinct others) (hstep : v.Step v') : v'.Distinct others := by
  have hnext : ∀ shape, (v.nextId shape ::ₘ (others + v.live)).Nodup := fun shape =>
    Multiset.nodup_cons.mpr ⟨h.nextId_not_mem shape, h.nodup⟩
  have hlater : v.lastId ≤ v.tick.lastId := Nat.le_succ _
  have hothers : ∀ id ∈ others, Named v.tick.lastId id := fun id hid => (h.others id hid).mono hlater
  have helements : ∀ e ∈ v.elements, e.Numbered v.tick.lastId := fun e he =>
    (h.elements e he).mono hlater
  have hplugs : ∀ p ∈ v.pool, p.element.Numbered v.tick.lastId := fun p hp =>
    (h.plugs p hp).mono hlater
  cases hstep with
  | @push e hid _ =>
    refine ⟨?_, hothers, ?_, hplugs⟩
    · rw [live_push, hid, Multiset.add_cons]
      exact hnext e.shape
    · refine List.forall_mem_append.mpr ⟨helements, List.forall_mem_singleton.mpr ?_⟩
      exact ⟨v.lastId + 1, Nat.succ_pos _, le_rfl, hid⟩
  | @deposit p hp =>
    refine ⟨?_, hothers, helements, Multiset.forall_mem_cons.mpr ⟨?_, hplugs⟩⟩
    · rw [live_deposit, hp.id_eq, Multiset.add_cons]
      exact hnext p.element.shape
    · exact ⟨v.lastId + 1, Nat.succ_pos _, le_rfl, hp.id_eq⟩
  | @place p rest e hpool _ hid hshape _ =>
    have hplug : p.element.Numbered v.lastId := h.plugs p (hpool ▸ Multiset.mem_cons_self p rest)
    refine ⟨?_, h.others, ?_, fun q hq => h.plugs q (hpool ▸ Multiset.mem_cons_of_mem hq)⟩
    · rw [live_place hpool hid]
      exact h.nodup
    · refine List.forall_mem_append.mpr ⟨h.elements, List.forall_mem_singleton.mpr ?_⟩
      rwa [Element.Numbered, hid, hshape]
  | modify hsame =>
    refine ⟨?_, h.others, ?_, h.plugs⟩
    · rw [live, ids_modifyElement fun e => (hsame e).1]
      exact h.nodup
    · intro e he
      obtain ⟨old, hold, rfl | rfl⟩ := exists_of_mem_modify he
      · exact h.elements _ hold
      · rw [Element.Numbered, (hsame old).1, (hsame old).2.1]
        exact h.elements old hold
  | cover | noted | halved => exact ⟨h.nodup, h.others, h.elements, h.plugs⟩

end Distinct

/-! ## Actions -/

/-- **Actions stay on the panel:** each acts on an element that is there. -/
def Closed (v : Scene) : Prop := ∀ e ∈ v.elements, ∀ a ∈ e.actions, a.targetId ∈ v.ids

lemma Closed.push (h : v.Closed) {e : Element} (he : v.Reaches e) : (v.push e).Closed := by
  unfold Closed
  rw [ids_push]
  refine List.forall_mem_append.mpr ⟨?_, List.forall_mem_singleton.mpr ?_⟩
  · exact fun d hd a ha => List.mem_append_left _ (h d hd a ha)
  · intro a ha
    rcases he a ha with hown | hthere
    · exact List.mem_append_right _ (List.mem_singleton.mpr hown)
    · exact List.mem_append_left _ hthere

lemma Closed.step (h : v.Closed) (hstep : v.Step v') : v'.Closed := by
  cases hstep with
  | push _ he => exact Closed.push (v := v.tick) h he
  | @place _ rest _ _ _ _ _ he => exact Closed.push (v := v.withPool rest) h he
  | modify hsame =>
    intro e he a ha
    rw [ids_modifyElement fun e => (hsame e).1]
    obtain ⟨old, hold, rfl | rfl⟩ := exists_of_mem_modify he
    · exact h _ hold a ha
    · exact h old hold a ((hsame old).2.2 ▸ ha)
  | deposit | cover | noted | halved => exact h

/-! ## Plugs -/

/-- The ids and origins of the plugs in the pool and of those that were placed. -/
def held (v : Scene) : Multiset (String × Nat) :=
  v.pool.map Plug.entry + (v.placements.map Placement.entry : List (String × Nat))

lemma held_deposit (v : Scene) (p : Plug) : (v.deposit p).held = p.entry ::ₘ v.held :=
  (congrArg (· + _) (Multiset.map_cons _ _ _)).trans (Multiset.cons_add _ _ _)

/-- A plug that is placed is still held. -/
lemma held_place {p : Plug} {rest : Multiset Plug} {e : Element} (hpool : v.pool = p ::ₘ rest) :
    (((v.withPool rest).push e).record p).held = v.held := by
  have hrecord : (((v.withPool rest).push e).record p).held = rest.map Plug.entry +
      ((v.placements ++ [(⟨p.element.id, p.origin, v.index⟩ : Placement)]).map Placement.entry :
        List (String × Nat)) := rfl
  have hentry : Placement.entry ⟨p.element.id, p.origin, v.index⟩ = p.entry := rfl
  rw [hrecord, held, hpool, Multiset.map_cons, List.map_append, ← Multiset.coe_add, List.map_singleton,
    hentry, Multiset.coe_singleton, add_comm (Multiset.ofList _), Multiset.singleton_add, Multiset.add_cons,
    Multiset.cons_add]

/-- **Plugs are kept:** what was deposited is in the pool or has a placement, and not both.  A
placement is one of the old ones, or on this panel and for a plug of an earlier one. -/
structure Balanced (others : Multiset String) (old : List Placement) (v : Scene) : Prop where
  deposited : ∀ entry, entry ∈ v.deposits ↔ entry ∈ v.held
  once : (v.held.map Prod.fst).Nodup
  placed : ∀ q ∈ v.placements,
    q ∈ old ∧ q.id ∈ others ∨ q.panel = v.index ∧ q.origin < v.index ∧ q.id ∈ v.ids
  origin : ∀ p ∈ v.pool, p.origin ≤ v.index

namespace Balanced

variable {others : Multiset String} {old : List Placement}

/-- What is held is an element or a plug. -/
lemma mem_of_mem_held (h : v.Balanced others old) {id : String} (hid : id ∈ v.held.map Prod.fst) :
    id ∈ others + v.live := by
  obtain ⟨entry, hentry, rfl⟩ := Multiset.mem_map.mp hid
  rcases Multiset.mem_add.mp hentry with hpool | hplaced
  · obtain ⟨p, hp, rfl⟩ := Multiset.mem_map.mp hpool
    exact Multiset.mem_add.mpr (.inr (Multiset.mem_add.mpr (.inr (Multiset.mem_map_of_mem _ hp))))
  · obtain ⟨q, hq, rfl⟩ := List.mem_map.mp (Multiset.mem_coe.mp hplaced)
    rcases h.placed q hq with ⟨-, hothers⟩ | ⟨-, -, hids⟩
    · exact Multiset.mem_add.mpr (.inl hothers)
    · exact Multiset.mem_add.mpr (.inr (Multiset.mem_add.mpr (.inl hids)))

/-- **A step keeps all plugs.** -/
lemma step (h : v.Balanced others old) (hdistinct : v.Distinct others) (hstep : v.Step v') :
    v'.Balanced others old := by
  cases hstep with
  | @push e hid _ =>
    refine ⟨h.deposited, h.once, fun q hq => (h.placed q hq).imp_right ?_, h.origin⟩
    rintro ⟨hpanel, horigin, hmem⟩
    exact ⟨hpanel, horigin, ids_push v.tick e ▸ List.mem_append_left _ hmem⟩
  | @deposit p hp =>
    refine ⟨fun entry => ?_, ?_, h.placed, Multiset.forall_mem_cons.mpr ⟨hp.origin.le, h.origin⟩⟩
    · rw [held_deposit, Multiset.mem_cons]
      exact List.mem_cons.trans (or_congr_right (h.deposited entry))
    · rw [held_deposit, Multiset.map_cons, Multiset.nodup_cons]
      refine ⟨fun hmem => ?_, h.once⟩
      have hlive : p.element.id ∈ others + v.live := h.mem_of_mem_held hmem
      exact hdistinct.nextId_not_mem _ (hp.id_eq ▸ hlive)
  | @place p rest e hpool horigin hid _ _ =>
    have hp : p ∈ v.pool := hpool ▸ Multiset.mem_cons_self p rest
    have hids : (((v.withPool rest).push e).record p).ids = v.ids ++ [e.id] := ids_push _ e
    refine ⟨fun entry => ?_, ?_, ?_, fun q hq => h.origin q (hpool ▸ Multiset.mem_cons_of_mem hq)⟩
    · rw [held_place hpool]
      exact h.deposited entry
    · rw [held_place hpool]
      exact h.once
    · refine List.forall_mem_append.mpr ⟨fun q hq => ?_, List.forall_mem_singleton.mpr (.inr ?_)⟩
      · refine (h.placed q hq).imp_right fun ⟨hpanel, horigin, hmem⟩ => ⟨hpanel, horigin, ?_⟩
        exact hids ▸ List.mem_append_left _ hmem
      · refine ⟨rfl, lt_of_le_of_ne (h.origin p hp) horigin, ?_⟩
        exact hids ▸ List.mem_append_right _ (List.mem_singleton.mpr hid.symm)
  | modify hsame =>
    refine ⟨h.deposited, h.once, fun q hq => ?_, h.origin⟩
    rw [ids_modifyElement fun e => (hsame e).1]
    exact h.placed q hq
  | @noted p hp =>
    refine ⟨fun entry => ?_, h.once, h.placed, h.origin⟩
    refine List.mem_cons.trans ⟨?_, fun hmem => .inr ((h.deposited entry).mpr hmem)⟩
    rintro (rfl | hmem)
    · exact Multiset.mem_add.mpr (.inl (Multiset.mem_map_of_mem _ hp))
    · exact (h.deposited entry).mp hmem
  | cover | halved => exact ⟨h.deposited, h.once, h.placed, h.origin⟩

end Balanced

/-- **Steps give no id twice and keep all plugs.** -/
lemma Steps.balanced {others : Multiset String} {old : List Placement} (h : v.Steps v')
    (hdistinct : v.Distinct others) (hv : v.Balanced others old) :
    v'.Distinct others ∧ v'.Balanced others old :=
  h.keeps (I := fun w => w.Distinct others ∧ w.Balanced others old)
    (fun ⟨hdistinct, hw⟩ hstep => ⟨hdistinct.step hstep, hw.step hdistinct hstep⟩) ⟨hdistinct, hv⟩

/-! ## Later scenes -/

/-- What the events of a later scene add: deposits, and sockets for halves with new ids. -/
structure Later (v v' : Scene) : Prop where
  lastId : v.lastId ≤ v'.lastId
  deposits : v.deposits ⊆ v'.deposits
  halved : v.halved ⊆ v'.halved
  added : ∀ id ∈ v'.halved, id ∈ v.halved ∨ ∃ shape k, v.lastId < k ∧ id = Shape.idOf shape k

namespace Later

lemma refl (v : Scene) : v.Later v :=
  ⟨le_rfl, List.Subset.refl _, List.Subset.refl _, fun _ hid => .inl hid⟩

lemma trans (h : v.Later v') (h' : v'.Later v'') : v.Later v'' where
  lastId := h.lastId.trans h'.lastId
  deposits := List.Subset.trans h.deposits h'.deposits
  halved := List.Subset.trans h.halved h'.halved
  added id hid := by
    rcases h'.added id hid with hid | ⟨shape, k, hk, rfl⟩
    · exact h.added id hid
    · exact .inr ⟨shape, k, h.lastId.trans_lt hk, rfl⟩

lemma step (h : v.Later v') (hstep : v'.Step v'') : v.Later v'' := by
  refine h.trans ?_
  cases hstep with
  | push =>
    exact ⟨Nat.le_succ _, List.Subset.refl _, List.Subset.refl _, fun _ hid => .inl hid⟩
  | place | modify | cover =>
    exact ⟨le_rfl, List.Subset.refl _, List.Subset.refl _, fun _ hid => .inl hid⟩
  | deposit =>
    exact ⟨Nat.le_succ _, List.subset_cons_self _ _, List.Subset.refl _, fun _ hid => .inl hid⟩
  | noted => exact ⟨le_rfl, List.subset_cons_self _ _, List.Subset.refl _, fun _ hid => .inl hid⟩
  | halved hid =>
    obtain ⟨shape, rfl⟩ := hid
    refine ⟨le_rfl, List.Subset.refl _, List.subset_cons_self _ _, fun id hmem => ?_⟩
    rcases List.mem_cons.mp hmem with rfl | hmem
    · exact .inr ⟨shape, _, Nat.lt_succ_self _, rfl⟩
    · exact .inl hmem

end Later

lemma Steps.later (h : v.Steps v') : v.Later v' := h.keeps Later.step (.refl v)

end Scene

end PanelPuzzle

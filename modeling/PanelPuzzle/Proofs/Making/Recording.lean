import PanelPuzzle.Proofs.Making.Records
/-!
# Desks with records

The records of a draft are kept by whatever is done on a desk, as long as ids are given once.  An id is on
the panel, or a plug with it waits, or it is held: it was given to what is not on the panel yet, or it is
that of a plug in hand or of something on another panel.

* `Desk.Records` — the invariant of a desk.
* `Records.claim`, `Records.tick`, `Records.push` and so on — one rule for each thing that is done.
* `Desk.Pending` — an element that is going to be covered, while others are put on the panel.
* `Records.control`, `Records.settle` — a coverable is controlled, and its record says so.
-/

namespace PanelPuzzle

/-- What is known of a plug that waits: it does nothing, is no ball and has a size that is made. -/
structure Plug.Waits (p : Plug) : Prop where
  actions_eq : p.element.actions = []
  change_ne : p.element.change ≠ .move
  width : p.element.width ∈ Side.sizes
  height : p.element.height ∈ Side.sizes

/-- What holds of some member of a list that is changed at one place. -/
lemma exists_modify_iff {es : List Element} {place : Nat} {change : Element → Element}
    {p : Element → Prop} (h : ∀ e, es[place]? = some e → (p (change e) ↔ p e)) :
    (∃ e ∈ es.modify place change, p e) ↔ ∃ e ∈ es, p e := by
  cases he : es[place]? with
  | none => rw [List.modify_eq_self (List.getElem?_eq_none_iff.mp he)]
  | some e =>
    obtain ⟨before, after, heq, hmodify⟩ := exists_modify_eq he change
    rw [hmodify, heq]
    simp only [List.mem_append, List.mem_cons, or_and_right, exists_or, exists_eq_left, h e he]

/-- What holds of some member of a list that gets more members. -/
lemma exists_append_iff {es es' : List Element} {p : Element → Prop} (h : ∀ e ∈ es', ¬ p e) :
    (∃ e ∈ es ++ es', p e) ↔ ∃ e ∈ es, p e := by
  refine ⟨fun ⟨e, he, hp⟩ => ⟨e, ?_, hp⟩, fun ⟨e, he, hp⟩ => ⟨e, List.mem_append_left _ he, hp⟩⟩
  exact (List.mem_append.mp he).resolve_right fun he' => h e he' hp

/-- An element with one action reaches no more than what this acts on. -/
lemma Element.eq_of_reaches {e : Element} {a : Action} {id : String} (hactions : e.actions = [a])
    (h : e.Controls id ∨ e.Resizes id) : id = a.targetId := by
  have hsingle : ∀ {b}, b ∈ e.actions → b = a := fun hb => List.mem_singleton.mp (hactions ▸ hb)
  rcases h with ⟨-, ⟨dx, dy, hmoves⟩ | ⟨-, change, target, hconfigures⟩⟩ | ⟨-, hsizes⟩
  · exact congrArg Action.targetId (hsingle hmoves)
  · exact congrArg Action.targetId (hsingle hconfigures)
  · exact congrArg Action.targetId (hsingle hsizes)

namespace Desk

/-- The ids of the elements on the panel and of the plugs that wait. -/
def live (d : Desk) : Multiset String :=
  (d.elements.map (·.id) : List String) + d.pool.map (·.element.id)

/-- **The records of a desk,** while some ids are held. -/
structure Records (held : Multiset String) (room : List Rect) (but : Option String) (d : Desk) :
    Prop extends d.draft.Records room but where
  waits : ∀ p ∈ d.pool, p.Waits
  given : Given d.lastId (held + d.live)

variable {d d' : Desk} {held held' : Multiset String} {room : List Rect} {but : Option String}
  {e : Element} {r : Rect} {grid : Grid} {place : Nat} {id : String}

namespace Records

/-! ## What is on the panel -/

/-- What else is on the desk does not matter. -/
lemma congr (h : d.Records held room but) (helements : d'.draft.elements = d.draft.elements)
    (hgrid : d'.draft.grid = d.draft.grid) (hcoverables : d'.draft.coverables = d.draft.coverables)
    (hpool : d'.pool = d.pool) (hlast : d'.lastId = d.lastId) : d'.Records held room but := by
  have hkeeps : d.draft.Keeps d'.draft := by
    refine ⟨fun place e he => ⟨e, ?_, .refl e⟩, ?_⟩
    · rwa [helements]
    · rw [hgrid]
      exact List.Subset.refl _
  refine ⟨⟨hgrid ▸ h.tiled, ?_, hcoverables ▸ h.nodup, fun c hc => ?_, ?_, ?_⟩, hpool ▸ h.waits, ?_⟩
  · rw [helements]
    exact h.reaches
  · exact (h.placed c (by rwa [← hcoverables])).keep hkeeps
  · rw [helements, hcoverables]
    exact h.flagged
  · rw [Draft.footprints, hcoverables, hgrid]
    exact h.own
  · rw [live, show d'.elements = d.elements from helements, hpool, hlast]
    exact h.given

lemma spare (h : d.Records held room none) (but : Option String) : d.Records held room but :=
  ⟨h.toRecords.spare but, h.waits, h.given⟩

/-- What is held may be lost. -/
lemma of_add (h : d.Records (held' + held) room but) : d.Records held room but :=
  ⟨h.toRecords, h.waits, h.given.mono (add_le_add_left (Multiset.le_add_left held held') _) le_rfl⟩

/-- So may cells that were claimed. -/
lemma of_cons (h : d.Records held (r :: room) but) : d.Records held room but :=
  { h with own := (List.sublist_cons_self r _).subperm.trans h.own }

lemma mem_claims (h : d.Records held (r :: room) but) : r ∈ d.draft.grid.claims :=
  h.own.subset List.mem_cons_self

lemma named (h : d.Records held room but) (hid : id ∈ d.elements.map (·.id)) : Named d.lastId id :=
  h.given.named id (Multiset.mem_add.mpr (.inr (Multiset.mem_add.mpr (.inl hid))))

/-- What is held is not on the panel. -/
lemma notMem_of_held (h : d.Records (id ::ₘ held) room but) : id ∉ d.elements.map (·.id) := by
  intro hid
  have hnodup := h.given.nodup
  rw [Multiset.cons_add, Multiset.nodup_cons] at hnodup
  exact hnodup.1 (Multiset.mem_add.mpr (.inr (Multiset.mem_add.mpr (.inl hid))))

/-- What can be covered is on the panel. -/
lemma mem_ids (h : d.Records held room but) {c : Coverable} (hc : c ∈ d.draft.coverables) :
    c.id ∈ d.elements.map (·.id) := by
  have hplaced := h.placed c hc
  cases hsource : c.source with
  | none =>
    obtain ⟨-, r, ⟨-, -, e, he, hid, -⟩, -⟩ := hplaced.virtual hsource
    exact hid ▸ List.mem_map_of_mem he
  | some place =>
    obtain ⟨e, he, hid, -⟩ := hplaced.sourced place hsource
    exact hid ▸ List.mem_map_of_mem (List.mem_of_getElem? he)

lemma uncovered (h : d.Records held room but) (hid : id ∉ d.elements.map (·.id)) :
    id ∉ d.draft.coverables.map (·.id) := by
  intro hmem
  obtain ⟨c, hc, rfl⟩ := List.mem_map.mp hmem
  exact hid (h.mem_ids hc)

/-! ## Claims -/

/-- **A rectangle is claimed** for what comes next. -/
lemma claim (h : d.Records held room but) (hclaims : d.Claims r grid) :
    (d.withGrid grid).Records held (r :: room) but where
  tiled := hclaims.grid_eq ▸ h.tiled.claim hclaims.free
  reaches := h.reaches
  nodup := h.nodup
  placed c hc := by
    refine (h.placed c hc).keep ⟨fun place e he => ⟨e, he, .refl e⟩, ?_⟩
    change d.draft.grid.claims ⊆ grid.claims
    rw [hclaims.grid_eq]
    exact List.subset_append_left _ _
  flagged := h.flagged
  own := by
    change (r :: (room ++ d.draft.footprints)).Subperm grid.claims
    rw [hclaims.grid_eq]
    exact ((List.subperm_cons r).mpr h.own).trans (List.perm_append_singleton r _).symm.subperm
  waits := h.waits
  given := h.given

/-! ## Ids and plugs -/

/-- **The next id** is held by what it is given to. -/
lemma tick (h : d.Records held room but) (shape : Shape) :
    d.tick.Records (d.nextId shape ::ₘ held) room but where
  toRecords := h.toRecords
  waits := h.waits
  given := by
    rw [Multiset.cons_add]
    exact h.given.next shape

/-- **A plug is taken** out of the pool. -/
lemma withdraw (h : d.Records held room but) {p : Plug} {rest : Multiset Plug}
    (hpool : d.pool = p ::ₘ rest) : (d.withPool rest).Records (p.element.id ::ₘ held) room but where
  toRecords := h.toRecords
  waits q hq := h.waits q (hpool ▸ Multiset.mem_cons_of_mem hq)
  given := by
    have hlive : p.element.id ::ₘ held + (d.withPool rest).live = held + d.live := by
      rw [live, live, hpool, Multiset.map_cons, Multiset.add_cons, Multiset.add_cons, Multiset.cons_add]
      rfl
    rw [hlive]
    exact h.given

/-- **A plug is put** into the pool. -/
lemma deposit {p : Plug} (h : d.Records (p.element.id ::ₘ held) room but) (hp : p.Waits) :
    (d.deposit p).Records held room but where
  toRecords := h.toRecords
  waits := Multiset.forall_mem_cons.mpr ⟨hp, h.waits⟩
  given := by
    have hlive : held + (d.deposit p).live = p.element.id ::ₘ held + d.live := by
      rw [Desk.deposit, live, live, withPool, Multiset.map_cons, Multiset.add_cons, Multiset.add_cons,
        Multiset.cons_add]
    rw [hlive]
    exact h.given

/-! ## Elements -/

/-- **An element is put on the panel.**  What it controls or resizes is there already, and if that can be
covered its flags may be out of date. -/
lemma push (h : d.Records (e.id ::ₘ held) room but)
    (hreaches : ∀ id, e.Controls id ∨ e.Resizes id → id ∈ d.elements.map (·.id) ∧
      (id ∈ d.draft.coverables.map (·.id) → id ∈ but)) : (d.push e).Records held room but where
  tiled := h.tiled
  reaches := by
    change ∀ e' ∈ d.elements ++ [e], ∀ id, e'.Controls id ∨ e'.Resizes id →
      id ∈ (d.elements ++ [e]).map (·.id)
    rw [List.map_append]
    intro e' he' id hid
    refine List.mem_append_left _ ?_
    rcases List.mem_append.mp he' with he' | he'
    · exact h.reaches e' he' id hid
    · exact (hreaches id (List.mem_singleton.mp he' ▸ hid)).1
  nodup := h.nodup
  placed c hc := (h.placed c hc).keep
    ⟨fun place e' he' => ⟨e', getElem?_append he' [e], .refl e'⟩, List.Subset.refl _⟩
  flagged c hc hid := by
    obtain ⟨hremote, hsize⟩ := h.flagged c hc hid
    have hnot : ∀ e' ∈ [e], ¬ (e'.Controls c.id ∨ e'.Resizes c.id) := fun e' he' hreach =>
      hid ((hreaches c.id (List.mem_singleton.mp he' ▸ hreach)).2 (List.mem_map_of_mem hc))
    exact ⟨hremote.trans (exists_append_iff fun e' he' hp => hnot e' he' (.inl hp)).symm,
      hsize.trans (exists_append_iff fun e' he' hp => hnot e' he' (.inr hp)).symm⟩
  own := h.own
  waits := h.waits
  given := by
    have hids : (d.push e).elements.map (·.id) = d.elements.map (·.id) ++ [e.id] := List.map_append
    have hlive : (d.push e).live = e.id ::ₘ d.live := by
      rw [live, hids, Multiset.coe_eq_coe.mpr (List.perm_append_singleton _ _), ← Multiset.cons_coe,
        Multiset.cons_add]
      rfl
    rw [hlive, Multiset.add_cons, ← Multiset.cons_add]
    exact h.given

/-- An element that is quiet. -/
lemma pushQuiet (h : d.Records (e.id ::ₘ held) room but) (hquiet : e.Quiet) :
    (d.push e).Records held room but := h.push fun id hreaches => absurd hreaches (hquiet id)

/-- **A new element** that is quiet. -/
lemma add (h : d.Records held room but) (hid : e.id = d.nextId e.shape) (hquiet : e.Quiet) :
    (d.tick.push e).Records held room but :=
  pushQuiet (hid ▸ h.tick e.shape) hquiet

/-- **An element is changed** in what is not recorded. -/
lemma modify (h : d.Records held room but) {change : Element → Element}
    (hkept : ∀ e, d.elements[place]? = some e → e.Kept (change e)) :
    (d.alter (·.modifyElement place change)).Records held room but := by
  have hkeeps : d.draft.Keeps (d.draft.modifyElement place change) := by
    refine ⟨fun i e he => ⟨if place = i then change e else e, ?_, ?_⟩, List.Subset.refl _⟩
    · change (d.elements.modify place change)[i]? = _
      rw [List.getElem?_modify, show d.elements[i]? = some e from he]
      rfl
    · split
      · rename_i hsame
        exact hkept e (hsame ▸ he)
      · exact .refl e
  have hids : (d.elements.modify place change).map (·.id) = d.elements.map (·.id) := by
    cases he : d.elements[place]? with
    | none => rw [List.modify_eq_self (List.getElem?_eq_none_iff.mp he)]
    | some e =>
      obtain ⟨before, after, heq, hmodify⟩ := exists_modify_eq he change
      rw [hmodify, heq, List.map_append, List.map_append, List.map_cons, List.map_cons,
        (hkept e he).id_eq]
  refine ⟨⟨h.tiled, ?_, h.nodup, fun c hc => (h.placed c hc).keep hkeeps, ?_, h.own⟩, h.waits, ?_⟩
  · change ∀ e' ∈ d.elements.modify place change, ∀ id, e'.Controls id ∨ e'.Resizes id →
      id ∈ (d.elements.modify place change).map (·.id)
    rw [hids]
    intro e' he' id hid
    have hsame : (∃ e ∈ d.elements.modify place change, e.Controls id ∨ e.Resizes id) ↔
        ∃ e ∈ d.elements, e.Controls id ∨ e.Resizes id := exists_modify_iff fun e he =>
      or_congr (hkept e he).controls_iff (hkept e he).resizes_iff
    obtain ⟨e, he, hid⟩ := hsame.mp ⟨e', he', hid⟩
    exact h.reaches e he id hid
  · intro c hc hid
    obtain ⟨hremote, hsize⟩ := h.flagged c hc hid
    exact ⟨hremote.trans (exists_modify_iff fun e he => (hkept e he).controls_iff).symm,
      hsize.trans (exists_modify_iff fun e he => (hkept e he).resizes_iff).symm⟩
  · have hlive : (d.alter (·.modifyElement place change)).live = d.live :=
      congrArg (fun ids : List String => (ids : Multiset String) + d.pool.map (·.element.id)) hids
    rw [hlive]
    exact h.given

/-! ## Remote controls -/

/-- The buttons of a quartet are put on the panel. -/
lemma build_quartet (r : Rect) (color : UInt8) : ∀ (buttons : List Remote.QuartetButton) {d : Desk},
    d.Records held room but → id ∈ d.elements.map (·.id) →
    (id ∈ d.draft.coverables.map (·.id) → id ∈ but) →
      (d.build (Scene.quartet r color id d.lastId buttons)).Records held room but
  | [], d, h, _, _ => by rwa [Scene.quartet, build_nil]
  | b :: others, d, h, hid, hbut => by
    rw [Scene.quartet, build_cons]
    refine build_quartet r color others (push (h.tick .triangle) fun id' hreaches => ?_) ?_ hbut
    · obtain rfl := Element.eq_of_reaches (a := .moveStep id b.dx b.dy) rfl hreaches
      exact ⟨hid, hbut⟩
    · exact List.map_append ▸ List.mem_append_left _ hid

/-- **Remote controls** for an element.  If it can be covered its flags may be out of date. -/
lemma control (h : d.Records held room but) (hclaims : d.Claims r grid)
    (hid : id ∈ d.elements.map (·.id)) (hbut : id ∈ d.draft.coverables.map (·.id) → id ∈ but)
    (color : UInt8) : (d.control r grid color id).Records held room but :=
  (build_quartet r color Remote.quartet (h.claim hclaims).of_cons hid hbut).congr rfl rfl rfl rfl rfl

lemma not_resizes_quartet (r : Rect) (color : UInt8) (other : String) :
    ∀ {buttons : List Remote.QuartetButton} {n : Nat},
      ∀ e ∈ Scene.quartet r color id n buttons, ¬ e.Resizes other
  | [], _, e, he => absurd he List.not_mem_nil
  | b :: others, n, e, he => by
    rcases List.mem_cons.mp he with rfl | he
    · exact fun hresizes => Action.noConfusion (List.mem_singleton.mp hresizes.2)
    · exact not_resizes_quartet r color other e he

/-- **What a quartet is for is controlled.** -/
lemma controls_control (h : d.Records held room but) (hid : id ∈ d.elements.map (·.id)) (r : Rect)
    (grid : Grid) (color : UInt8) : ∃ e ∈ (d.control r grid color id).elements, e.Controls id := by
  refine ⟨_, List.mem_append_right _ List.mem_cons_self, ?_, .inl ⟨0, -1, List.mem_singleton.mpr rfl⟩⟩
  exact ((h.named hid).ne_next .triangle).symm

/-! ## Flags -/

/-- **The flags of a coverable** are brought up to date. -/
lemma settle {target : Nat} {c : Coverable} {remote size : Bool} {change : Coverable → Coverable}
    (h : d.Records held room (some c.id)) (hc : d.draft.coverables[target]? = some c)
    (hchange : change c = { c with hasRemote := remote, sizeObscured := size })
    (hremote : remote = true ↔ ∃ e ∈ d.elements, e.Controls c.id)
    (hsize : size = true ↔ ∃ e ∈ d.elements, e.Resizes c.id) :
    (d.alter (·.modifyCoverable target change)).Records held room none := by
  obtain ⟨before, after, heq, hmodify⟩ := exists_modify_eq hc change
  rw [hchange] at hmodify
  have hcoverables : (d.alter (·.modifyCoverable target change)).draft.coverables = _ := hmodify
  have hids : (d.draft.coverables.modify target change).map (·.id) = d.draft.coverables.map (·.id) := by
    rw [hmodify, heq, List.map_append, List.map_append, List.map_cons, List.map_cons]
  have hmem : ∀ {c'}, c' ∈ before ∨ c' ∈ after → c' ∈ d.draft.coverables := fun hc' => by
    rw [heq]
    exact List.mem_append.mpr (hc'.imp_right (List.mem_cons_of_mem _))
  have hsplit : ∀ {c'}, c' ∈ d.draft.coverables.modify target change →
      c' = { c with hasRemote := remote, sizeObscured := size } ∨ c' ∈ before ∨ c' ∈ after := by
    intro c' hc'
    rw [hmodify, List.mem_append, List.mem_cons] at hc'
    tauto
  have hkeeps : d.draft.Keeps (d.draft.modifyCoverable target change) :=
    ⟨fun place e he => ⟨e, he, .refl e⟩, List.Subset.refl _⟩
  refine ⟨⟨h.tiled, h.reaches, hids ▸ h.nodup, fun c' hc' => ?_, fun c' hc' _ => ?_, ?_⟩, h.waits,
    h.given⟩
  · rcases hsplit hc' with rfl | hother
    · obtain ⟨hsourced, hvirtual, hmaze⟩ := (h.placed c (List.mem_of_getElem? hc)).keep hkeeps
      exact ⟨hsourced, hvirtual, fun hsource => ⟨(hmaze hsource).cell, (hmaze hsource).maze⟩⟩
    · exact (h.placed c' (hmem hother)).keep hkeeps
  · rcases hsplit hc' with rfl | hother
    · exact ⟨hremote, hsize⟩
    · refine h.flagged c' (hmem hother) fun hid => ?_
      have hnodup := h.nodup
      rw [heq, List.map_append, List.map_cons, List.nodup_middle, List.nodup_cons, List.mem_append,
        Option.mem_some_iff.mp hid] at hnodup
      exact hnodup.1 (hother.imp (List.mem_map_of_mem ·) (List.mem_map_of_mem ·))
  · have hfootprints : (d.draft.modifyCoverable target change).footprints = d.draft.footprints := by
      rw [Draft.footprints, Draft.modifyCoverable, hmodify, Draft.footprints, heq]
      simp only [List.filter_append, List.filter_cons, List.map_append]
      split <;> rfl
    change (room ++ (d.draft.modifyCoverable target change).footprints).Subperm _
    rw [hfootprints]
    exact h.own

/-- What is known of the element of a coverable. -/
lemma source (h : d.Records held room but) {target source : Nat} {c : Coverable}
    (hsource : d.SourceAt target c source e) : e.id = c.id ∧ e.change ≠ .move := by
  obtain ⟨e', he', hid, -, hmove⟩ := (h.placed c (List.mem_of_getElem? hsource.coverable)).sourced source
    hsource.source_eq
  obtain rfl := Option.some.inj (hsource.element.symm.trans he')
  exact ⟨hid, hmove⟩

/-- **A coverable is taken over** by what controls it. -/
lemma takeOver {target source : Nat} {c : Coverable} (h : d.Records held room (some c.id))
    (hsource : d.SourceAt target c source e) (hcontrols : ∃ e ∈ d.elements, e.Controls c.id)
    (hsize : c.sizeObscured = true ↔ ∃ e ∈ d.elements, e.Resizes c.id) :
    (d.takeOver target source).Records held room none := by
  have hkept : ∀ e, d.elements[source]? = some e → e.Kept e.locked := fun e he =>
    .of_stays (stays_locked e) rfl (h.source ⟨hsource.coverable, hsource.source_eq, he⟩).2
  refine settle (d := d.lock source) (h.modify hkept) hsource.coverable rfl (iff_of_true rfl ?_) ?_
  · exact (exists_modify_iff fun e he => (hkept e he).controls_iff).mpr hcontrols
  · exact hsize.trans (exists_modify_iff fun e he => (hkept e he).resizes_iff).symm

end Records

/-! ## What is going to be covered -/

/-- **An element that is going to be covered.**  Until its record is written it is remembered whether it
is controlled. -/
structure Pending (place : Nat) (e : Element) (controlled : Bool) (d : Desk) : Prop where
  element : d.elements[place]? = some e
  uncovered : e.id ∉ d.draft.coverables.map (·.id)
  remote_iff : controlled = true ↔ ∃ e' ∈ d.elements, e'.Controls e.id
  plain : ¬ ∃ e' ∈ d.elements, e'.Resizes e.id

namespace Pending

variable {controlled : Bool} {role : CoverRole}

/-- **An element that is put on the panel** is controlled by nothing yet. -/
lemma of_push (h : d.Records (e.id ::ₘ held) room but) (hquiet : e.Quiet) :
    (d.push e).Pending d.elements.length e false := by
  have hnew := h.notMem_of_held
  refine ⟨List.getElem?_concat_length, h.uncovered hnew, iff_of_false Bool.false_ne_true ?_, ?_⟩
  · rintro ⟨e', he', hcontrols⟩
    rcases List.mem_append.mp he' with he' | he'
    · exact hnew (h.reaches e' he' _ (.inl hcontrols))
    · exact hquiet _ (.inl (List.mem_singleton.mp he' ▸ hcontrols))
  · rintro ⟨e', he', hresizes⟩
    rcases List.mem_append.mp he' with he' | he'
    · exact hnew (h.reaches e' he' _ (.inr hresizes))
    · exact hquiet _ (.inr (List.mem_singleton.mp he' ▸ hresizes))

lemma mem_ids (h : d.Pending place e controlled) : e.id ∈ d.elements.map (·.id) :=
  List.mem_map_of_mem (List.mem_of_getElem? h.element)

/-- A quiet element is put on the panel meanwhile. -/
lemma pushQuiet {e' : Element} (h : d.Pending place e controlled) (hquiet : e'.Quiet) :
    (d.push e').Pending place e controlled where
  element := getElem?_append h.element [e']
  uncovered := h.uncovered
  remote_iff := h.remote_iff.trans (exists_append_iff (List.forall_mem_singleton.mpr
    fun hcontrols => hquiet _ (.inl hcontrols))).symm
  plain := fun hresizes => h.plain ((exists_append_iff (List.forall_mem_singleton.mpr
    fun hresizes => hquiet _ (.inr hresizes))).mp hresizes)

/-- The element gets remote controls. -/
lemma control (h : d.Pending place e false) (hd : d.Records held room but) (r : Rect) (grid : Grid)
    (color : UInt8) : (d.control r grid color e.id).Pending place e true where
  element := getElem?_append h.element _
  uncovered := h.uncovered
  remote_iff := iff_of_true rfl (hd.controls_control h.mem_ids r grid color)
  plain := fun hresizes => h.plain
    ((exists_append_iff (Records.not_resizes_quartet r color e.id)).mp hresizes)

/-- The element is changed. -/
lemma modify (h : d.Pending place e controlled) {change : Element → Element} (hkept : e.Kept (change e)) :
    (d.alter (·.modifyElement place change)).Pending place (change e) controlled := by
  have hall : ∀ e', d.elements[place]? = some e' → e'.Kept (change e') := fun e' he' =>
    Option.some.inj (h.element.symm.trans he') ▸ hkept
  refine ⟨?_, hkept.id_eq ▸ h.uncovered, ?_, ?_⟩
  · change (d.elements.modify place change)[place]? = _
    rw [List.getElem?_modify_eq, h.element, Option.map_eq_map, Option.map_some]
  · rw [hkept.id_eq]
    exact h.remote_iff.trans (exists_modify_iff fun e' he' => (hall e' he').controls_iff).symm
  · rw [hkept.id_eq]
    exact fun hresizes => h.plain
      ((exists_modify_iff fun e' he' => (hall e' he').resizes_iff).mp hresizes)

end Pending

namespace Records

variable {controlled : Bool} {role : CoverRole}

/-- A record is written. -/
lemma addCoverable {room' : List Rect} {c : Coverable} (h : d.Records held room' but)
    (hpending : d.Pending place e controlled) (hid : c.id = e.id) (hremote : c.hasRemote = controlled)
    (hsize : c.sizeObscured = false) (hplaced : c.Placed d.draft)
    (hown : (room ++ (d.draft.addCoverable c).footprints).Subperm d.draft.grid.claims) :
    (d.addCoverable c).Records held room but where
  tiled := h.tiled
  reaches := h.reaches
  nodup := by
    change ((d.draft.coverables ++ [c]).map (·.id)).Nodup
    rw [List.map_append, List.map_singleton, hid]
    exact List.nodup_append_comm.mp (List.nodup_cons.mpr ⟨hpending.uncovered, h.nodup⟩)
  placed := by
    have hkeeps : d.draft.Keeps (d.draft.addCoverable c) :=
      ⟨fun place e he => ⟨e, he, .refl e⟩, List.Subset.refl _⟩
    exact List.forall_mem_append.mpr ⟨fun c' hc' => (h.placed c' hc').keep hkeeps,
      List.forall_mem_singleton.mpr (hplaced.keep hkeeps)⟩
  flagged := by
    refine List.forall_mem_append.mpr ⟨h.flagged, List.forall_mem_singleton.mpr fun _ => ⟨?_, ?_⟩⟩
    · rw [hremote, hid]
      exact hpending.remote_iff
    · rw [hid]
      exact iff_of_false (Bool.eq_false_iff.mp hsize) hpending.plain
  own := hown
  waits := h.waits
  given := h.given

/-- **An element is covered** that fills its cells. -/
lemma cover (h : d.Records held (r :: room) but) (hpending : d.Pending place e controlled)
    (hmove : e.change ≠ .move) (hfills : e.Fills r) (hrole : role ≠ .virtualArea) :
    (d.addCoverable { Draft.coverableOf e place role with hasRemote := controlled }).Records held room
      but := by
  refine h.addCoverable hpending rfl rfl rfl ⟨fun i hi => ?_, iff_of_false hrole nofun, nofun⟩ ?_
  · obtain rfl := Option.mem_some_iff.mp hi
    exact ⟨e, hpending.element, rfl, rfl, hmove⟩
  · have hfootprints : (d.draft.addCoverable
        { Draft.coverableOf e place role with hasRemote := controlled }).footprints =
        d.draft.footprints ++ [r] := by
      rw [Draft.footprints, Draft.addCoverable, List.filter_append, List.map_append,
        ← hfills.footprint_coverableOf place role]
      rfl
    rw [hfootprints, ← List.append_assoc]
    exact (List.perm_append_singleton r _).subperm.trans h.own

/-- **A cell of a maze** can be covered too. -/
lemma addVirtual (h : d.Records held room but) (hpending : d.Pending place e false) {cell : Rect}
    (hcell : Coverable.InMaze { id := e.id, footprint := cell, role := .virtualArea } d.draft) :
    (d.addCoverable { id := e.id, footprint := cell, role := .virtualArea }).Records held room but := by
  refine h.addCoverable hpending rfl rfl rfl ⟨nofun, iff_of_true rfl rfl, fun _ => hcell⟩ ?_
  have hfootprints : (d.draft.addCoverable
      { id := e.id, footprint := cell, role := .virtualArea }).footprints = d.draft.footprints := by
    rw [Draft.footprints, Draft.addCoverable, List.filter_append, List.map_append]
    exact List.append_nil _
  rw [hfootprints]
  exact h.own

/-- **A new element** that can be covered. -/
lemma addCovered (h : d.Records held (r :: room) but) (hid : e.id = d.nextId e.shape)
    (hquiet : e.Quiet) (hmove : e.change ≠ .move) (hfills : e.Fills r) (hrole : role ≠ .virtualArea) :
    (d.tick.pushCoverable e role).Records held room but := by
  have htick : d.tick.Records (e.id ::ₘ held) (r :: room) but := hid ▸ h.tick e.shape
  exact (htick.pushQuiet hquiet).cover (.of_push htick hquiet) hmove hfills hrole

end Records

end Desk

end PanelPuzzle

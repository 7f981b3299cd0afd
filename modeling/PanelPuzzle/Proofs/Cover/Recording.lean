import PanelPuzzle.Proofs.Cover.Turns
import PanelPuzzle.Proofs.Technique.Recording
/-!
# Covers keep records

Lids, tiles and traps are quiet.  The other covers control a coverable or change its size, and write this
into its record.  Between the two the record is out of date, and nothing else happens meanwhile.

Nothing is asked of what is covered: a cover keeps records even where it would not be legal.

* `KeepsRecords.style` — **every cover keeps records.**
* `KeepsRecords.addCoverings` — so does the covering of a panel.
-/

namespace PanelPuzzle

variable {α β : Type}

namespace Making

open Cover Desk

variable {d : Desk} {held : Multiset String} {room : List Rect}

/-- The element of a coverable is on the desk. -/
lemma exists_sourceAt {target source : Nat} {e : Element}
    (h : d.draft.sourceOf? target = some (source, e)) : ∃ c, d.SourceAt target c source e := by
  cases hc : d.draft.coverables[target]? with
  | none => simp [Draft.sourceOf?, hc] at h
  | some c => exact ⟨c, sourceAt_of_sourceOf? hc h⟩

namespace KeepsRecords

/-! ## Lids and tiles -/

/-- **A lid** is quiet, and its remote controls are for no coverable. -/
lemma physical (target : Nat) : KeepsRecords (Cover.physical target) := by
  refine fun held room d hd => .draft ?_
  cases d.draft.coverables[target]? with
  | none => exact .pure hd
  | some c =>
    refine .newTile fun plain hid hactions _ => .skip .randomColor fun color _ => ?_
    refine .skip still_chooseGate fun gate _ => .push ?_
    have hreleased : ∀ {lid : Element}, lid.actions = plain.actions ++ [.release lid.id] → lid.Quiet :=
      fun h => Element.quiet_of_release (h.trans (congrArg (· ++ [_]) hactions))
    cases gate with
    | remote =>
      have hlid : ∀ {lid : Element}, lid.id = d.nextId lid.shape → lid.actions = [] →
          (d.tick.push lid).Records held room none := fun hid hactions =>
        hd.add hid (Element.quiet_of_actions_eq_nil hactions)
      have hcontrolled : ∀ {lid : Element} {r : Rect} {grid : Grid} {color : UInt8},
          lid.id = d.nextId lid.shape → lid.actions = [] → (d.tick.push lid).Claims r grid →
          ((d.tick.push lid).control r grid color lid.id).Records held room none := by
        intro lid r grid color hid hactions hclaims
        refine (hlid hid hactions).control hclaims ?_ (fun hmem => ?_) color
        · exact List.mem_map_of_mem (List.mem_append_right _ (List.mem_singleton.mpr rfl))
        · have hnew : lid.id ∉ d.tick.elements.map (·.id) :=
            Records.notMem_of_held (hid ▸ hd.tick lid.shape)
          exact absurd hmem (hd.uncovered hnew)
      refine .addControllers ?_ fun r grid color _ hclaims _ _ => .pure ?_
      · refine .modifyDraft (.pure ?_)
        rw [alter_modifyElement_push]
        exact hlid hid hactions
      · exact hcontrolled hid hactions hclaims
    | drag => exact .pure (hd.add hid (Element.quiet_of_actions_eq_nil hactions))
    | tap => exact .pure (hd.add hid (hreleased rfl))
    | rotate => exact .pure (hd.add hid (hreleased rfl))

lemma newDraggable {Q : β → Desk → Prop} {r : Rect} {color : UInt8} {next : Nat → Making β}
    (hd : d.Records held room none)
    (h : ∀ d', d'.draft.grid = d.draft.grid → d'.Records held room none →
      Works d' (next d.elements.length) Q) :
    Works d (liftM (Cover.newDraggable r color) >>= fun tile => Making.push tile >>= next) Q :=
  .newDraggable fun _ hid hactions _ =>
    .push (h _ rfl (hd.add hid (Element.quiet_of_actions_eq_nil hactions)))

lemma works_recordedRing (color : UInt8) : ∀ (ring : List Rect) {d : Desk}, d.Records held room none →
    (∀ r ∈ ring, d.draft.grid.isFree r = true) → ring.Pairwise Rect.Apart →
      Works d (Cover.placeRing color ring) fun _ d' => d'.Records held room none
  | [], _, hd, _, _ => .pure hd
  | r :: others, d, hd, hfree, hapart => by
    obtain ⟨hr, hothers⟩ := List.forall_mem_cons.mp hfree
    obtain ⟨haway, hrest⟩ := List.pairwise_cons.mp hapart
    refine .claim hr fun grid hclaims => newDraggable (hd.claim hclaims).of_cons fun d' hgrid hd' => ?_
    refine works_recordedRing color others hd' (fun s hs => ?_) hrest
    change d'.draft.grid = grid at hgrid
    rw [hgrid, hclaims.grid_eq]
    exact Grid.isFree_claim (Grid.inBounds_of_isFree hr) (hothers s hs) (haway s hs)

lemma enlarge (r : Rect) : KeepsRecords (Cover.enlarge r) := by
  refine fun held room d hd => .draft ?_
  dsimp only
  split
  · exact .pure hd
  · rename_i strip enlarged hfound
    refine .skip (.note _) fun _ _ => .claim ?_ fun grid hclaims => .pure (hd.claim hclaims).of_cons
    simpa using List.find?_some hfound

lemma groupObscure (target : Nat) : KeepsRecords (Cover.groupObscure target) := by
  refine fun held room d hd => .draft ?_
  cases d.draft.coverables[target]? with
  | none => exact .pure hd
  | some c =>
    refine .skip .randomColor fun color _ => ?_
    dsimp only
    split
    · exact .bind (enlarge _ _ _ d hd) fun r d' hd' => newDraggable hd' fun _ _ h => .pure h
    · refine .draft ?_
      split
      · exact .pure hd
      · refine .bind (works_recordedRing color _ hd (fun r hr => (List.mem_filter.mp hr).2)
          (ringAround_pairwise _ _)) fun _ d' hd' => newDraggable hd' fun _ _ h => .pure h

/-! ## What is controlled -/

/-- **Remote controls** for a coverable, and its record. -/
lemma remoteOnly (target : Nat) : KeepsRecords (Cover.remoteOnly target) := by
  refine fun held room d hd => .draft ?_
  cases hfound : d.draft.sourceOf? target with
  | none => exact .pure hd
  | some found =>
    obtain ⟨source, e⟩ := found
    obtain ⟨c, hsource⟩ := exists_sourceAt hfound
    have hc := List.mem_of_getElem? hsource.coverable
    refine .addControllers (.pure hd) fun r grid color _ hclaims _ _ => .takeOver (.pure ?_)
    rw [(hd.source hsource).1]
    refine Records.takeOver (e := e) ((hd.spare _).control hclaims (hd.mem_ids hc) (fun _ => rfl) color)
      ⟨hsource.coverable, hsource.source_eq, getElem?_append hsource.element _⟩
      (hd.controls_control (hd.mem_ids hc) r grid color) ?_
    exact (hd.flagged c hc (Option.not_mem_none _)).size_iff.trans
      (exists_append_iff (Records.not_resizes_quartet r color c.id)).symm

/-- **A switch that releases a coverable,** and its record. -/
lemma switchRelease (target : Nat) : KeepsRecords (Cover.switchRelease target) := by
  refine fun held room d hd => .draft ?_
  cases hfound : d.draft.sourceOf? target with
  | none => exact .pure hd
  | some found =>
    obtain ⟨source, e⟩ := found
    obtain ⟨c, hsource⟩ := exists_sourceAt hfound
    have hc := List.mem_of_getElem? hsource.coverable
    refine .allocate (fun _ => .pure hd) fun r grid hclaims _ _ => .newSwitch fun color => ?_
    refine .skip (.note _) fun _ _ => .push (.modifyDraft (.takeOver (.pure ?_)))
    rw [(hd.source hsource).1]
    have htick := (((hd.spare (some c.id)).claim hclaims).of_cons).tick .switch
    -- the switch reaches the coverable and nothing else
    have hswitch : ∀ {switch : Element}, switch.id = (d.withGrid grid).nextId .switch →
        switch.shape = .switch → switch.actions = [.release c.id] →
        Records held room none (((d.withGrid grid).tick.push switch).addRemote.takeOver target source) := by
      intro switch hid hshape hactions
      have hpushed := Records.push (hid ▸ htick) (e := switch) fun id hreaches => by
        obtain rfl := Element.eq_of_reaches hactions hreaches
        exact ⟨hd.mem_ids hc, fun _ => rfl⟩
      refine Records.takeOver (e := e) (hpushed.congr rfl rfl rfl rfl rfl)
        ⟨hsource.coverable, hsource.source_eq, getElem?_append hsource.element _⟩
        ⟨switch, List.mem_append_right _ (List.mem_singleton.mpr rfl), ?_, .inr ⟨hshape, .none, 0, ?_⟩⟩ ?_
      · rw [hid]
        exact ((hd.named (hd.mem_ids hc)).ne_next .switch).symm
      · exact hactions ▸ List.mem_singleton.mpr rfl
      · refine (hd.flagged c hc (Option.not_mem_none _)).size_iff.trans
          (exists_append_iff (List.forall_mem_singleton.mpr fun hresizes => ?_)).symm
        exact Action.noConfusion (List.mem_singleton.mp (hactions ▸ hresizes.2))
    exact hswitch rfl rfl rfl

/-! ## Wrong sizes and traps -/

/-- **A wrong size,** and the record of it. -/
lemma sizeObscure (target : Nat) : KeepsRecords (Cover.sizeObscure target) := by
  refine fun held room d hd => .draft ?_
  cases hc : d.draft.coverables[target]? with
  | none => exact .pure hd
  | some c =>
    cases hfound : d.draft.sourceOf? target with
    | none => exact .pure hd
    | some found =>
      obtain ⟨source, e⟩ := found
      have hsource := sourceAt_of_sourceOf? hc hfound
      obtain ⟨hid, hmove⟩ := hd.source hsource
      have hmem := List.mem_of_getElem? hc
      refine .skip (.choose _) fun size _ => ?_
      cases size with
      | none => exact .pure hd
      | some size =>
        refine .addButton (fun _ => .pure hd) fun r grid b hclaims hbutton hactions _ => ?_
        refine .modifyDraft (.modifyDraft (.pure ?_))
        rw [hid] at hactions
        have htick := (((hd.spare (some c.id)).claim hclaims).of_cons).tick b.shape
        have hpushed := Records.push (hbutton ▸ htick) (e := b) fun id hreaches => by
          obtain rfl := Element.eq_of_reaches hactions hreaches
          exact ⟨hd.mem_ids hmem, fun _ => rfl⟩
        have hkept : ∀ e, ((d.withGrid grid).tick.push b).elements[source]? = some e →
            e.Kept (e.resized size c.footprint) := fun e he =>
          .of_stays (stays_resized _ _ _) rfl (hpushed.source ⟨hc, hsource.source_eq, he⟩).2
        refine Records.settle (hpushed.modify hkept) hc rfl ?_ (iff_of_true rfl ?_)
        · refine (hd.flagged c hmem (Option.not_mem_none _)).remote_iff.trans (Iff.symm ?_)
          exact (exists_modify_iff fun e he => (hkept e he).controls_iff).trans
            (exists_append_iff (List.forall_mem_singleton.mpr (Element.not_controls_of_size hactions)))
        · refine (exists_modify_iff fun e he => (hkept e he).resizes_iff).mpr
            ⟨b, List.mem_append_right _ (List.mem_singleton.mpr rfl), ?_, ?_⟩
          · rw [hbutton]
            exact ((hd.named (hd.mem_ids hmem)).ne_next b.shape).symm
          · exact hactions ▸ List.mem_singleton.mpr rfl

lemma resetTrap : KeepsRecords Cover.resetTrap := by
  refine fun held room d hd => .draft (.skip (.choose _) fun chosen _ => ?_)
  cases chosen with
  | none => exact .pure hd
  | some id =>
    refine .bind (works_quietButton hd fun b => Element.quiet_of_reset) fun button d' hd' => ?_
    cases button with
    | none => exact .pure hd'
    | some place => exact .skip (.note _) fun _ _ => .modifyDraft (.pure (hd'.congr rfl rfl rfl rfl rfl))

/-! ## All covers -/

/-- **Every cover keeps records.** -/
lemma style (target : Nat) : ∀ style : CoverStyle, KeepsRecords (style.apply target)
  | .physical => physical target
  | .groupObscure => groupObscure target
  | .remoteOnly => remoteOnly target
  | .switchRelease => switchRelease target
  | .sizeObscure => sizeObscure target

/-- **So does the covering of a panel.** -/
lemma addCoverings (probability : Number) : KeepsRecords (Cover.addCoverings probability) := by
  intro held room
  have hcovering : Covering fun b => b.desk.Records held room none :=
    { drawn := fun _ hb => hb
      noted := fun _ _ _ hb => hb
      cover := fun {b style target} _ hb => KeepsRecords.style target style held room b.desk hb b rfl
      trap := fun {b} hb => resetTrap held room b.desk hb b rfl }
  rintro _ hd b rfl
  exact (hcovering.keeps_addCoverings probability b hd).2

end KeepsRecords

end Making

end PanelPuzzle

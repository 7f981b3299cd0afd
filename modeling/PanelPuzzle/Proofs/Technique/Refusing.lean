import PanelPuzzle.Proofs.Making.Refusing
import PanelPuzzle.Technique.Apply
/-!
# Techniques that find no room

A technique answers whether anything was placed, and if nothing was, the workbench is spared.  Most of them
look for room before they do anything else.  A group first takes a plug out of the pool, which it puts back;
the pool then holds the same plugs in another order.
-/

namespace PanelPuzzle.Making

open Technique

namespace Refuses

/-! ## Pieces that are placed several times -/

lemma placeHole : Refuses (· = false) Technique.placeHole := by
  refine .skip (.draws (.choose _)) fun kind => ?_
  match kind with
  | none => exact .pure _
  | some (shape, width, height) =>
    refine .search (.allocate _ _ _) (.pure _) fun r => ?_
    exact .bind fun _ => .bind fun _ => .bind fun _ => .bind fun _ => .bind fun _ => .pure Bool.noConfusion

lemma placeScrew (first : Bool) : Refuses (· = false) (Technique.placeScrew first) := by
  refine .search (.allocate _ _ _) (.pure _) fun r => ?_
  refine .bind fun color => .bind fun plainHole => .bind fun s => ?_
  -- a screw is placed over its hole, whether or not that is a socket
  have screwed : ∀ hole : Element, Accepts (· = false) (do
      let _ ← Making.push hole
      let plain ← Session.newElement .screw screwSize screwSize
      let screwColor ← Session.randomColor
      let rotation ← Draws.below 8
      let turns ← Draws.inRange 2 4
      let screw := (({ plain.cornered r with
        elevation := .raised
        color := .plain screwColor
        rotation := Int32.ofNat rotation }).interact .hold .rotate (Int32.ofNat turns)).addAction
          (.release plain.id)
      Making.note (.screwPlaced screw.id hole.id r.x r.y)
      Making.pushCoverable screw .mechanism
      Pure.pure true : Making Bool) := by
    intro hole
    refine .bind fun _ => .bind fun plain => .bind fun screwColor => .bind fun rotation => ?_
    exact .bind fun turns => .bind fun _ => .bind fun _ => .pure Bool.noConfusion
  dsimp only
  split
  all_goals refine .bind fun waits => ?_
  all_goals split
  all_goals exact .bind screwed

lemma placeSwitch (first : Bool) : Refuses (· = false) (Technique.placeSwitch first) := by
  refine .search (.allocate _ _ _) (.pure _) fun r => ?_
  exact .bind fun _ => .bind fun _ => .bind fun _ => .bind fun _ => .pure Bool.noConfusion

lemma hole : Refuses (· = false) Technique.hole :=
  .skip (.draws (.inRange _ _)) fun _ => .repeatPlacing .placeHole _

lemma screw : Refuses (· = false) Technique.screw :=
  .skip (.draws (.inRange _ _)) fun _ => .repeatPlacing (.placeScrew true) _

lemma switch : Refuses (· = false) Technique.switch :=
  .skip (.draws (.inRange _ _)) fun _ => .repeatPlacing (.placeSwitch true) _

/-! ## Single pieces -/

lemma semicircle : Refuses (· = false) Technique.semicircle := by
  refine .skip (.draws (.choose _)) fun size => ?_
  refine .search (.allocate _ _ _) (.skip (.note _) fun _ => .pure _) fun r => ?_
  refine .bind fun color => .bind fun strict => .bind fun socket => .bind fun _ => .bind fun _ => ?_
  exact .bind fun sideways => .bind fun _ => .pure Bool.noConfusion

lemma tumbler : Refuses (· = false) Technique.tumbler := by
  refine .search (.allocate _ _ _) (.skip (.note _) fun _ => .pure _) fun r => ?_
  exact .bind fun _ => .bind fun _ => .bind fun _ => .bind fun _ => .bind fun _ => .pure Bool.noConfusion

/-! ## Mazes -/

/-- No maze is too large for the grid only if none of the sizes has room. -/
lemma allocateMaze : ∀ sizes, Refuses (· = none) (Technique.allocateMaze sizes)
  | [] => .pure _
  | _ :: others => .search (.allocateCells _ _) (allocateMaze others) fun _ => .pure nofun

lemma maze : Refuses (· = false) Technique.maze := by
  refine .skip (.draws (.below _)) fun first => ?_
  refine .search (.allocateMaze _) (.skip (.note _) fun _ => .pure _) fun found => ?_
  obtain ⟨width, height, r⟩ := found
  refine .bind fun layout => .bind fun _ => .bind fun _ => .bind fun wallColor => .bind fun _ => ?_
  refine .bind fun color => .bind fun socket => .bind fun _ => .bind fun ball => .bind fun _ => ?_
  refine .bind fun corridor => ?_
  match corridor with
  | none => exact .pure Bool.noConfusion
  | some (x, y) => exact .bind fun _ => .pure Bool.noConfusion

/-! ## Linked switches -/

lemma placeLinked (pattern : TargetPattern) (target : Nat) :
    Refuses (· = none) (Technique.placeLinked pattern target) := by
  refine .search (.allocate _ _ _) (.pure _) fun r => .bind fun plain => ?_
  dsimp only
  split
  · refine .bind fun ball => .bind fun place => .bind fun button => ?_
    split
    · exact .bind fun _ => .bind fun _ => .pure nofun
    · exact .bind fun _ => .pure nofun
  · exact .bind fun _ => .pure nofun

/-- No switch is linked only if there is no room for the first one. -/
lemma placeAllLinked (pattern : TargetPattern) :
    ∀ targets, Refuses (· = []) (Technique.placeAllLinked pattern targets)
  | [] => .pure _
  | target :: _ => .search (.placeLinked pattern target) (.pure _) fun _ => .bind fun _ => .pure nofun

lemma switchPattern : Refuses (· = false) Technique.switchPattern := by
  refine .skip (.draws (.below _)) fun number => .skip (.draws (.inRange _ _)) fun count => ?_
  refine .skip (.draws (.targets _ _)) fun targets => .skip (.note _) fun _ => ?_
  refine .bind (.placeAllLinked _ _) (fun linked hlinked => ?_) fun linked hlinked => ?_
  · rw [if_pos hlinked]
    exact .pure _
  · rw [if_neg hlinked]
    exact .bind fun _ => .pure Bool.noConfusion

/-! ## Groups -/

lemma allocateBlock (tile : Nat × Nat) : ∀ blocks, Refuses (· = none) (Technique.allocateBlock tile blocks)
  | [] => .pure _
  | _ :: others => .search (.allocateCells _ _) (allocateBlock tile others) fun _ => .pure nofun

/-- The last step puts a plug back into the pool. -/
lemma deposit {α : Type} {no : α → Prop} (plug : Plug) (a : α) :
    Refuses no (liftM (Session.deposit plug) >>= fun _ => Pure.pure a) (·.deposit plug) := by
  intro b _
  have hdesk : Works b.desk (liftM (Session.deposit plug) >>= fun _ => Pure.pure a) fun _ d =>
      d = b.desk.deposit plug := .deposit (.pure rfl)
  exact ⟨hdesk b rfl, rfl, .refl _⟩

/-- **A plug that is put back is as good as never taken:** what comes after a withdrawal refuses if no plug
was found, and else puts the plug back before it does. -/
lemma withdrawWhere {α : Type} {no : α → Prop} {panel : Nat} {condition : Plug → Bool}
    {next : Option Plug → Making α} (hnone : Refuses no (next none))
    (hsome : ∀ plug, Refuses no (next (some plug)) (·.deposit plug)) :
    Refuses no (liftM (Session.withdrawWhere panel condition) >>= next) := by
  intro b hanswer
  have hcases := (PlugPool.keeps_pool_withdrawWhere panel condition b.session.pool
    b.session.draws trivial).1
  have hdraws := Draws.Advances.withdrawWhere panel condition b.session.pool b.session.draws
  have hstep : (liftM (Session.withdrawWhere panel condition) : Making (Option Plug)) b
      = ((b.session.pool.withdrawWhere panel condition b.session.draws).1.1,
        ⟨b.draft, { b.session with
          pool := (b.session.pool.withdrawWhere panel condition b.session.draws).1.2
          draws := (b.session.pool.withdrawWhere panel condition b.session.draws).2 }⟩) := rfl
  rw [Making.bind_apply, hstep] at hanswer ⊢
  generalize b.session.pool.withdrawWhere panel condition b.session.draws = left
    at hcases hdraws hanswer ⊢
  obtain ⟨⟨found, pool⟩, draws⟩ := left
  obtain ⟨rfl, rfl⟩ | ⟨plug, rfl, hpool, -⟩ := hcases
  · have hspared : b.Becomes id ⟨b.draft, { b.session with draws }⟩ := ⟨rfl, rfl, hdraws⟩
    exact hspared.trans (hnone _ hanswer)
  · have htaken : b.Becomes (·.withPool pool.plugs) ⟨b.draft, { b.session with pool, draws }⟩ :=
      ⟨rfl, rfl, hdraws⟩
    have hback := htaken.trans (hsome plug _ hanswer)
    refine ⟨hback.desk.trans ?_, hback.forceCovers, hback.draws⟩
    -- a desk has its pool without an order, so the plug may come back at the other end
    change Desk.mk _ _ _ (plug ::ₘ (pool.plugs : Multiset Plug)) _ _ = _
    rw [← hpool]
    rfl

lemma group : Refuses (· = false) Technique.group := by
  refine .skip .draft fun d => .skip .session fun s => ?_
  refine .withdrawWhere (.skip (.note _) fun _ => .pure _) fun plug => ?_
  refine .skip (.draws (.inRange _ _)) fun rows => .skip (.draws (.inRange _ _)) fun columns => ?_
  refine .search (.allocateBlock _ _) ?_ fun found => ?_
  · exact .skip (.note _) fun _ => .deposit plug false
  · obtain ⟨rows, columns, r⟩ := found
    refine .bind fun number => .bind fun cells => .bind fun second => .bind fun shuffled => ?_
    exact .bind fun _ => .bind fun _ => .pure Bool.noConfusion

end Refuses

/-- **A technique that places nothing spares the workbench.** -/
lemma refuses_technique (kind : TechniqueKind) : Refuses (· = false) kind.apply := by
  cases kind with
  | group => exact .group
  | hole => exact .hole
  | maze => exact .maze
  | screw => exact .screw
  | semicircle => exact .semicircle
  | switch => exact .switch
  | switchPattern => exact .switchPattern
  | tumbler => exact .tumbler

end PanelPuzzle.Making

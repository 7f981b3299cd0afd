import PanelPuzzle.Technique.Apply
import PanelPuzzle.Proofs.Making.Claiming
/-!
# Techniques only claim

Every technique takes its cells from the search for room, so it claims what is free and nothing
else: `Making.OnlyClaims.technique`.  One lemma for each step of a technique, in the order of the
modules that define them.
-/

namespace PanelPuzzle.Making.OnlyClaims

open Technique

lemma hole : OnlyClaims Technique.hole := by
  refine .bind (.draws _) fun count => .repeatPlacing (fun _ => ?_) _ _
  refine .bind (.draws _) fun kind => ?_
  rcases kind with _ | ⟨shape, width, height⟩
  · exact .pure _
  refine .bind (.allocate _ _ _) fun found => ?_
  cases found with
  | none => exact .pure _
  | some r =>
    refine .bind (.session _) fun color => .bind (.newSocket _ _ _ _ _) fun socket => ?_
    refine .bind (.note _) fun _ => .bind (.pushCoverable _ _) fun _ => ?_
    exact .bind (.depositPlug _ _ _ _) fun _ => .pure _

lemma fillHole (e : Element) (color : UInt8) : OnlyClaims (fillHole e color) := by
  refine .bind .readSession fun s => .bind (.session _) fun strict => ?_
  refine .bind (.depositPlug _ _ _ _) fun _ => .bind (.modifyDraft fun _ => rfl) fun _ => ?_
  exact .pure _

lemma placeScrew (first : Bool) : OnlyClaims (placeScrew first) := by
  refine .bind (.allocate _ _ _) fun found => ?_
  cases found with
  | none => exact .pure _
  | some r =>
    refine .bind (.session _) fun color => .bind (.session _) fun plainHole => ?_
    -- what is over the hole does not depend on whether it is a socket
    have screwed : ∀ hole : Element, OnlyClaims (do
        let _ ← Making.push hole
        let plain ← Session.newElement .screw screwSize screwSize
        let screwColor ← Session.randomColor
        let rotation ← Draws.below 8
        let turns ← Draws.inRange 2 4
        let screw := (({ plain.cornered r with
          elevation := .raised
          color := .plain screwColor
          rotation := Int32.ofNat rotation }).interact .hold .rotate (Int32.ofNat turns)).addAction
            (.release plain.id)
        Making.note (.screwPlaced screw.id hole.id r.x r.y)
        Making.pushCoverable screw .mechanism
        Pure.pure true : Making Bool) := fun hole =>
      .bind (.push _) fun _ => .bind (.session _) fun _ => .bind (.session _) fun _ =>
        .bind (.draws _) fun _ => .bind (.draws _) fun _ => .bind (.note _) fun _ =>
          .bind (.pushCoverable _ _) fun _ => .pure _
    refine .bind .readSession fun s => ?_
    dsimp only
    split
    all_goals refine .bind ?_ fun waits => ?_
    · exact .pure _
    · split
      · exact .bind (.fillHole _ _) screwed
      · exact .bind (.pure _) screwed
    · exact .session _
    · split
      · exact .bind (.fillHole _ _) screwed
      · exact .bind (.pure _) screwed

lemma screw : OnlyClaims Technique.screw :=
  .bind (.draws _) fun _ => .repeatPlacing .placeScrew _ _

lemma depositHalves (color : Option UInt8) : ∀ halves, OnlyClaims (depositHalves color halves)
  | [] => .pure _
  | (shape, width, height) :: others => by
      have rest := fun chosen =>
        bind (depositPlug shape width height chosen) fun _ => depositHalves color others
      cases color with
      | none => exact .bind (.session _) rest
      | some color => exact .bind (.pure color) rest

lemma semicircle : OnlyClaims Technique.semicircle := by
  refine .bind (.draws _) fun size => .bind (.allocate _ _ _) fun found => ?_
  cases found with
  | none => exact .bind (.note _) fun _ => .pure _
  | some r =>
    refine .bind (.session _) fun color => .bind (.session _) fun strict => ?_
    refine .bind (.newSocket _ _ _ _ _) fun socket => .bind (.note _) fun _ => ?_
    refine .bind (.pushCoverable _ _) fun _ => .bind (.session _) fun sideways => ?_
    exact .bind (.depositHalves _ _) fun _ => .pure _

lemma tumbler : OnlyClaims Technique.tumbler := by
  refine .bind (.allocate _ _ _) fun found => ?_
  cases found with
  | none => exact .bind (.note _) fun _ => .pure _
  | some r =>
    refine .bind (.session _) fun color => .bind (.newSocket _ _ _ _ _) fun socket => ?_
    refine .bind (.note _) fun _ => .bind (.pushCoverable _ _) fun _ => ?_
    exact .bind (.depositPlug _ _ _ _) fun _ => .pure _

lemma newSwitch (r : Rect) (target : Nat) : OnlyClaims (newSwitch r target) :=
  .bind (.session _) fun _ => .bind (.session _) fun _ => .bind (.session _) fun _ =>
    .bind (.session _) fun _ => .pure _

lemma switch : OnlyClaims Technique.switch := by
  refine .bind (.draws _) fun count => .repeatPlacing (fun first => ?_) _ _
  refine .bind (.allocate _ _ _) fun found => ?_
  cases found with
  | none => exact .pure _
  | some r =>
    refine .bind (.draws _) fun target => .bind (.newSwitch _ _) fun switch => ?_
    exact .bind (.note _) fun _ => .bind (.pushCoverable _ _) fun _ => .pure _

lemma placeLinked (pattern : TargetPattern) (target : Nat) :
    OnlyClaims (placeLinked pattern target) := by
  refine .bind (.allocate _ _ _) fun found => ?_
  cases found with
  | none => exact .pure _
  | some r =>
    refine .bind (.newSwitch _ _) fun plain => ?_
    split
    · refine .bind (.session _) fun ball => .bind (.push _) fun place => ?_
      refine .bind (.addButton _) fun button => ?_
      split
      · exact .bind (.modifyElement _ _) fun _ => .bind (.cover _ _) fun _ => .pure _
      · exact .bind (.cover _ _) fun _ => .pure _
    · exact .bind (.pushCoverable _ _) fun _ => .pure _

lemma placeAllLinked (pattern : TargetPattern) :
    ∀ targets, OnlyClaims (placeAllLinked pattern targets)
  | [] => .pure _
  | target :: targets => by
      refine .bind (.placeLinked _ _) fun placed => ?_
      cases placed with
      | none => exact .pure _
      | some id => exact .bind (placeAllLinked pattern targets) fun _ => .pure _

lemma placeMaster (linked : List String) : OnlyClaims (placeMaster linked) := by
  refine .bind (.allocate _ _ _) fun found => ?_
  cases found with
  | none => exact .note _
  | some r => exact .bind (.newSwitch _ _) fun _ => .pushCoverable _ _

lemma switchPattern : OnlyClaims Technique.switchPattern := by
  refine .bind (.draws _) fun number => .bind (.draws _) fun count => ?_
  refine .bind (.draws _) fun targets => .bind (.note _) fun _ => ?_
  refine .bind (.placeAllLinked _ _) fun linked => ?_
  split
  · exact .pure _
  · exact .bind (.placeMaster _) fun _ => .pure _

lemma allocateMaze : ∀ sizes, OnlyClaims (allocateMaze sizes)
  | [] => .pure _
  | (width, height) :: others => by
      refine .bind (.allocateCells _ _) fun found => ?_
      cases found with
      | none => exact allocateMaze others
      | some r => exact .pure _

lemma pushWalls (r : Rect) (color : UInt8) : ∀ runs, OnlyClaims (pushWalls r color runs)
  | [] => .pure _
  | _ :: others =>
      .bind (.session _) fun _ => .bind (.push _) fun _ => pushWalls r color others

lemma maze : OnlyClaims Technique.maze := by
  refine .bind (.draws _) fun first => .bind (.allocateMaze _) fun found => ?_
  rcases found with _ | ⟨width, height, r⟩
  · exact .bind (.note _) fun _ => .pure _
  refine .bind (.draws _) fun layout => .bind (.note _) fun _ => .bind (.session _) fun _ => ?_
  refine .bind (.session _) fun wallColor => .bind (.pushWalls _ _ _) fun _ => ?_
  refine .bind (.session _) fun color => .bind (.session _) fun socket => ?_
  refine .bind (.push _) fun _ => .bind (.session _) fun ball => .bind (.push _) fun _ => ?_
  refine .bind (.draws _) fun corridor => ?_
  cases corridor with
  | none => exact .bind (.pure _) fun _ => .pure _
  | some c => exact .bind (.modifyDraft fun _ => rfl) fun _ => .pure _

lemma allocateBlock (tile : Nat × Nat) : ∀ blocks, OnlyClaims (allocateBlock tile blocks)
  | [] => .pure _
  | (rows, columns) :: others => by
      refine .bind (.allocateCells _ _) fun found => ?_
      cases found with
      | none => exact allocateBlock tile others
      | some r => exact .pure _

lemma placeTiles (panel : Nat) (model : Element) (r : Rect) (tile : Nat × Nat)
    (keys : List ((Nat × Nat) × Plug)) :
    ∀ cells, OnlyClaims (placeTiles panel model r tile keys cells)
  | [] => .pure _
  | (row, column) :: cells => by
      unfold Technique.placeTiles
      have rest := placeTiles panel model r tile keys cells
      cases keys.lookup (row, column) with
      | some plug => exact .bind (.session _) fun _ => .bind (.push _) fun _ => rest
      | none => exact .bind (.session _) fun _ => .bind (.push _) fun _ => rest

lemma group : OnlyClaims Technique.group := by
  refine .bind .draft fun d => .bind .readSession fun s => .bind (.session _) fun plug => ?_
  cases plug with
  | none => exact .bind (.note _) fun _ => .pure _
  | some plug =>
    refine .bind (.draws _) fun rows => .bind (.draws _) fun columns => ?_
    refine .bind (.allocateBlock _ _) fun found => ?_
    rcases found with _ | ⟨rows, columns, r⟩
    · exact .bind (.note _) fun _ => .bind (.session _) fun _ => .pure _
    refine .bind (.draws _) fun number => .bind (.draws _) fun cells => ?_
    refine .bind (.session _) fun second => .bind (.draws _) fun shuffled => ?_
    exact .bind (.note _) fun _ => .bind (.placeTiles _ _ _ _ _ _) fun _ => .pure _

/-- **Every technique only claims.** -/
lemma technique : ∀ kind : TechniqueKind, OnlyClaims kind.apply
  | .group => group
  | .hole => hole
  | .maze => maze
  | .screw => screw
  | .semicircle => semicircle
  | .switch => switch
  | .switchPattern => switchPattern
  | .tumbler => tumbler

end PanelPuzzle.Making.OnlyClaims

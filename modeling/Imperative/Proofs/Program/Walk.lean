import Mathlib.Data.List.Basic
import Imperative.Program.Node

/-!
The walk down the tree of a program.

A place in the tree is given by the steps that lead there, and places are ordered as the source has
them. The walk comes by each place of the program once, in this order.
-/

namespace Imperative

namespace Node

lemma walk_eq (n : Node) : n.walk = n :: n.children.flatMap walk := by
  rw [walk]
  congr 1
  rw [List.flatMap_subtype (g := walk) (fun c _ => rfl), List.unattach_attach]

lemma self_mem_walk (n : Node) : n ∈ n.walk := by
  rw [walk_eq]
  exact .head _

lemma child_mem_walk {n c r : Node} (h : n ∈ r.walk) (hc : c ∈ n.children) : c ∈ r.walk := by
  induction r using walk.induct with
  | case1 r ih =>
    rw [walk_eq] at h ⊢
    refine .tail _ (List.mem_flatMap.2 ?_)
    rcases List.mem_cons.1 h with rfl | h
    · exact ⟨c, hc, c.self_mem_walk⟩
    · obtain ⟨q, hq, hn⟩ := List.mem_flatMap.1 h
      exact ⟨q, hq, ih ⟨q, hq⟩ hn⟩

/-! ### Places -/

/-- A way from a node to a part of it. -/
inductive Step
  /-- To a statement, an initial value or an argument, by its number. -/
  | item (i : Nat)
  | value
  | test
  | yes
  | no
  | body
  /-- To the test of a loop that comes after the statements of it. -/
  | lastTest
  | left
  | right

/-- The part that the first step leads to is earlier in the source. -/
inductive Step.Before : Step → Step → Prop
  | items {i j : Nat} : i < j → Before (item i) (item j)
  | lastTest {i : Nat} : Before (item i) lastTest
  | testYes : Before test yes
  | testNo : Before test no
  | yesNo : Before yes no
  | testBody : Before test body
  | operands : Before left right

/-- The statement or expression that the step leads to, if there is one. -/
def part? : Node → Step → Option Node
  | program p, .item i => p[i]?.map stmt
  | stmt (.decl _ inits _), .item i => inits[i]?.map fun init => expr init.value
  | stmt (.assign _ e _), .value => some (expr e)
  | stmt (.cond test _ _ _), .test => some (expr test)
  | stmt (.cond _ yes _ _), .yes => some (stmt yes)
  | stmt (.cond _ _ no _), .no => no.map stmt
  | stmt (.loop test _ _), .test => some (expr test)
  | stmt (.loop _ body _), .body => some (stmt body)
  | stmt (.repeatUntil body _ _), .item i => body[i]?.map stmt
  | stmt (.repeatUntil _ test _), .lastTest => some (expr test)
  | stmt (.fn _ body), .item i => body[i]?.map stmt
  | stmt (.block body _), .item i => body[i]?.map stmt
  | stmt (.ret e _), .value => some (expr e)
  | stmt (.print e _), .value => some (expr e)
  | stmt (.labeled _ body _), .body => some (stmt body)
  | stmt (.expr e _), .value => some (expr e)
  | expr (.bin _ l _ _), .left => some (expr l)
  | expr (.bin _ _ r _), .right => some (expr r)
  | expr (.call _ args _), .item i => args[i]?.map expr
  | _, _ => none

/-- The node that a number of steps lead to. -/
def at? : Node → List Step → Option Node
  | n, [] => some n
  | n, s :: place => (n.part? s).bind fun c => c.at? place

/-! ### The parts of a node -/

/-- Parts of one kind, with the steps to them. -/
def numbered {α : Type} (f : α → Node) (xs : List α) : List (Step × Node) :=
  xs.mapIdx fun i x => (.item i, f x)

/-- The children with the steps to them. -/
def parts : Node → List (Step × Node)
  | program p => numbered stmt p
  | stmt (.decl _ inits _) => numbered (fun init => expr init.value) inits
  | stmt (.cond test yes no _) =>
    (.test, expr test) :: (.yes, stmt yes) :: no.toList.map fun s => (.no, stmt s)
  | stmt (.loop test body _) => [(.test, expr test), (.body, stmt body)]
  | stmt (.repeatUntil body test _) => numbered stmt body ++ [(.lastTest, expr test)]
  | stmt (.fn _ body) | stmt (.block body _) => numbered stmt body
  | stmt (.assign _ e _) | stmt (.ret e _) | stmt (.print e _) | stmt (.expr e _) =>
    [(.value, expr e)]
  | stmt (.labeled _ body _) => [(.body, stmt body)]
  | expr (.bin _ l r _) => [(.left, expr l), (.right, expr r)]
  | expr (.call _ args _) => numbered expr args
  | expr (.lit _) | expr (.var ..) | stmt (.brk _) | stmt (.cont _) => []

section Numbered

variable {α : Type} {f : α → Node} {xs : List α} {s : Step} {c : Node}

lemma map_snd_numbered : (numbered f xs).map Prod.snd = xs.map f := by
  apply List.ext_getElem <;> simp [numbered]

lemma mem_numbered :
    (s, c) ∈ numbered f xs ↔ ∃ i, s = .item i ∧ xs[i]?.map f = some c := by
  simp only [numbered, List.mem_mapIdx, Prod.mk.injEq, Option.map_eq_some_iff]
  constructor
  · rintro ⟨i, hi, rfl, rfl⟩
    exact ⟨i, rfl, xs[i], List.getElem?_eq_getElem hi, rfl⟩
  · rintro ⟨i, rfl, x, hx, rfl⟩
    obtain ⟨hi, rfl⟩ := List.getElem?_eq_some_iff.1 hx
    exact ⟨i, hi, rfl, rfl⟩

lemma sorted_numbered : (numbered f xs).Pairwise fun q r => q.1.Before r.1 := by
  rw [List.pairwise_iff_getElem]
  intro i j hi hj hij
  simpa [numbered] using Step.Before.items hij

end Numbered

variable {n m c : Node} {s : Step} {place : List Step}

lemma map_snd_parts (n : Node) : n.parts.map Prod.snd = n.children := by
  cases n with
  | program p => exact map_snd_numbered
  | stmt s => cases s <;> simp [parts, children, stmtChildren, map_snd_numbered, Function.comp_def]
  | expr e => cases e <;> simp [parts, children, exprChildren, map_snd_numbered]

lemma mem_parts : (s, c) ∈ n.parts ↔ n.part? s = some c := by
  cases n with
  | program p => cases s <;> simp [parts, part?, mem_numbered]
  | stmt t => cases t <;> cases s <;> simp [parts, part?, mem_numbered, eq_comm]
  | expr e => cases e <;> cases s <;> simp [parts, part?, mem_numbered, eq_comm]

/-- A test that comes last comes after all statements. -/
lemma sorted_numbered_lastTest {α : Type} {f : α → Node} {xs : List α} :
    (numbered f xs ++ [(Step.lastTest, c)]).Pairwise fun q r => q.1.Before r.1 := by
  refine List.pairwise_append.2 ⟨sorted_numbered, List.pairwise_singleton _ _, ?_⟩
  rintro ⟨s, d⟩ hs r hr
  obtain ⟨i, rfl, -⟩ := mem_numbered.1 hs
  rw [List.mem_singleton.1 hr]
  exact .lastTest

lemma sorted_parts (n : Node) : n.parts.Pairwise fun q r => q.1.Before r.1 := by
  have htwo {s t : Step} {c d : Node} (h : s.Before t) :
      [(s, c), (t, d)].Pairwise fun q r => q.1.Before r.1 := List.pairwise_pair.2 h
  match n with
  | program _ | stmt (.decl ..) | stmt (.fn ..) | stmt (.block ..) | expr (.call ..) =>
    exact sorted_numbered
  | stmt (.repeatUntil ..) => exact sorted_numbered_lastTest
  | stmt (.loop ..) => exact htwo .testBody
  | expr (.bin ..) => exact htwo .operands
  | stmt (.cond _ _ none _) => exact htwo .testYes
  | stmt (.cond test yes (some no) _) =>
    refine List.pairwise_cons.2 ⟨?_, htwo .yesNo⟩
    exact List.forall_mem_cons.2 ⟨.testYes, List.forall_mem_singleton.2 .testNo⟩
  | stmt (.assign ..) | stmt (.ret ..) | stmt (.print ..) | stmt (.expr ..) | stmt (.labeled ..) =>
    exact List.pairwise_singleton _ _
  | stmt (.brk _) | stmt (.cont _) | expr (.lit _) | expr (.var ..) => exact .nil

lemma mem_children_of_mem_parts {q : Step × Node} (h : q ∈ n.parts) : q.2 ∈ n.children := by
  rw [← map_snd_parts]
  exact List.mem_map_of_mem h

/-! ### The places of the walk -/

/-- The places that the walk comes by, with their nodes. -/
def places (n : Node) : List (List Step × Node) :=
  ([], n) :: n.parts.attach.flatMap fun q => q.1.2.places.map fun r => (q.1.1 :: r.1, r.2)
termination_by sizeOf n
decreasing_by exact sizeOf_children (mem_children_of_mem_parts q.2)

lemma places_eq (n : Node) : n.places =
    ([], n) :: n.parts.flatMap fun q => q.2.places.map fun r => (q.1 :: r.1, r.2) := by
  rw [places]
  congr 1
  rw [List.flatMap_subtype
    (g := fun q : Step × Node => q.2.places.map fun r => (q.1 :: r.1, r.2)) (fun q _ => rfl),
    List.unattach_attach]

lemma map_snd_places (n : Node) : n.places.map Prod.snd = n.walk := by
  induction n using walk.induct with
  | case1 n ih =>
    have hpart : ∀ q ∈ n.parts, q.2.places.map Prod.snd = q.2.walk :=
      fun q hq => ih ⟨q.2, mem_children_of_mem_parts hq⟩
    rw [places_eq, walk_eq, List.map_cons, List.map_flatMap, ← map_snd_parts, List.flatMap_map]
    congr 1
    refine List.flatMap_congr fun q hq => ?_
    rw [← hpart q hq, List.map_map]
    rfl

/-- **The places of the walk are all there are.** -/
theorem mem_places : (place, m) ∈ n.places ↔ n.at? place = some m := by
  -- The induction is on the place: after the first step it goes on from a part of the node.
  induction place generalizing n with
  | nil =>
    rw [places_eq]
    simp [at?, eq_comm]
  | cons s place ih =>
    rw [places_eq, at?, Option.bind_eq_some_iff]
    simp only [← mem_parts, ← ih]
    constructor
    · intro h
      obtain ⟨⟨t, c⟩, hc, hplace⟩ := List.mem_flatMap.1 ((List.mem_cons.1 h).resolve_left nofun)
      obtain ⟨r, hr, heq⟩ := List.mem_map.1 hplace
      cases heq
      exact ⟨c, hc, hr⟩
    · rintro ⟨c, hc, hplace⟩
      exact .tail _ (List.mem_flatMap.2 ⟨(s, c), hc, List.mem_map.2 ⟨(place, m), hplace, rfl⟩⟩)

/-- **The walk keeps to the order of the places.** -/
theorem sorted_places (n : Node) :
    n.places.Pairwise fun q r => List.Lex Step.Before q.1 r.1 := by
  induction n using walk.induct with
  | case1 n ih =>
    have hpart : ∀ q ∈ n.parts, q.2.places.Pairwise fun q r => List.Lex Step.Before q.1 r.1 :=
      fun q hq => ih ⟨q.2, mem_children_of_mem_parts hq⟩
    rw [places_eq, List.pairwise_cons, List.pairwise_flatMap]
    refine ⟨fun r hr => ?_, fun q hq => ?_, ?_⟩
    · obtain ⟨q, -, hr⟩ := List.mem_flatMap.1 hr
      obtain ⟨r, -, rfl⟩ := List.mem_map.1 hr
      exact .nil
    -- Places in one part have the first step in common, and places in two are told apart by it.
    · exact List.pairwise_map.2 ((hpart q hq).imp .cons)
    · refine (sorted_parts n).imp fun hstep x hx y hy => ?_
      obtain ⟨x, -, rfl⟩ := List.mem_map.1 hx
      obtain ⟨y, -, rfl⟩ := List.mem_map.1 hy
      exact .rel hstep

lemma Step.Before.irrefl (s : Step) : ¬s.Before s := by
  intro h
  cases h with
  | items hlt => exact Nat.lt_irrefl _ hlt

end Node

open Node

/-- **The walk visits everything once, in the order of the source.** The visits of a walk down a
program are at the places of the program, one at each; a part is visited after the node that it is a
part of, and all in an earlier part before all in a later one. A walk is that of a node followed by
those of its children in turn, and no way down the children goes on for ever. -/
theorem walk_visits_all_once (p : Program) :
    (∃ visits : List (List Step × Node),
      visits.map Prod.snd = (Node.program p).walk ∧
      (∀ place n, (place, n) ∈ visits ↔ (Node.program p).at? place = some n) ∧
      (visits.map Prod.fst).Nodup ∧
      (visits.map Prod.fst).Pairwise (List.Lex Step.Before)) ∧
    (∀ n : Node, n.walk = n :: n.children.flatMap walk) ∧
    WellFounded fun c n : Node => c ∈ n.children := by
  have hsorted := List.pairwise_map.2 (sorted_places (.program p))
  have hnodup : ((Node.program p).places.map Prod.fst).Nodup := by
    refine hsorted.imp fun hlex heq => ?_
    subst heq
    exact List.lex_irrefl Step.Before.irrefl _ hlex
  refine ⟨⟨(Node.program p).places, map_snd_places _, fun _ _ => mem_places, hnodup, hsorted⟩,
    walk_eq, ?_⟩
  exact Subrelation.wf sizeOf_children (measure sizeOf).wf

end Imperative

import Imperative.Proofs.Check.Seen
import Imperative.Proofs.Program.Walk

/-!
The nodes of the tree that a task covers. What the check comes by are nodes of the program.
-/

namespace Imperative

namespace Node

/-- The types that are named at the node. -/
def annotations : Node → List Ty
  | stmt (.decl type _ _) => [type]
  | stmt (.fn h _) => h.returnType :: h.params.map Param.type
  | _ => []

/-- The variables that are declared at the node. -/
def declarations : Node → List (String × Ty)
  | stmt (.decl type is _) => is.map fun i => (i.name, type)
  | stmt (.fn h _) => h.params.map fun q => (q.name, q.type)
  | _ => []

/-- The function that is defined at the node, if there is one. -/
def headers : Node → List FnHeader
  | stmt (.fn h _) => [h]
  | _ => []

end Node

lemma Node.stmt_mem_walk (p : Program) : ∀ s ∈ p, .stmt s ∈ (Node.program p).walk :=
  fun _ hs => child_mem_walk (self_mem_walk _) (List.mem_map_of_mem hs)

/-- The definition stands in the program, at any depth. -/
def FnDecl.Stands (p : Program) (d : FnDecl) : Prop :=
  .stmt (.fn d.header d.body) ∈ (Node.program p).walk

lemma FnDecl.Stands.body {p : Program} {d : FnDecl} (h : d.Stands p) :
    ∀ s ∈ d.body, .stmt s ∈ (Node.program p).walk :=
  fun _ hs => Node.child_mem_walk h (List.mem_map_of_mem hs)

/-- No declaration, parameter or return type is the unknown one. -/
def NoUnknown (p : Program) : Prop := ∀ n ∈ (Node.program p).walk, .unknown ∉ n.annotations

instance (p : Program) : Decidable (NoUnknown p) :=
  inferInstanceAs (Decidable (∀ n ∈ (Node.program p).walk, .unknown ∉ n.annotations))

namespace Task

variable {P : Node → Prop} {t : SymbolTable} {k : Task}

/-- All nodes that the task covers at the top are such; initial values end a declaration. -/
def Within (P : Node → Prop) : Task → Prop
  | expr e => P (.expr e)
  | args es => ∀ e ∈ es, P (.expr e)
  | inits type is => ∃ before line, P (.stmt (.decl type (before ++ is) line))
  | stmt s => P (.stmt s)
  | stmts ss => ∀ s ∈ ss, P (.stmt s)

/-- What nodes hand on to their children, tasks hand on to their parts. -/
theorem Within.parts (hP : ∀ n c, P n → c ∈ n.children → P c) (h : k.Within P) :
    ∀ q ∈ k.parts t, q.2.Within P := by
  match k with
  | expr (.lit _) | expr (.var ..) | args [] | inits _ [] | stmts [] => exact List.forall_mem_nil _
  | stmt (.brk _) | stmt (.cont _) => exact List.forall_mem_nil _
  | expr (.bin ..) => exact forall_mem_pair (hP _ _ h (.head _)) (hP _ _ h (.tail _ (.head _)))
  | expr (.call _ es _) =>
    exact List.forall_mem_singleton.2 fun e he => hP _ _ h (List.mem_map_of_mem he)
  | args (e :: es) => exact forall_mem_pair (h e (.head _)) fun e he => h e (.tail _ he)
  | inits type (i :: is) =>
    obtain ⟨before, line, h⟩ := h
    refine forall_mem_pair (hP _ _ h ?_) ⟨before ++ [i], line, ?_⟩
    · exact List.mem_map_of_mem (f := fun i : Init => Node.expr i.value)
        (List.mem_append_right before (.head is))
    · rw [List.append_assoc]
      exact h
  | stmts (s :: ss) => exact forall_mem_pair (h s (.head _)) fun s hs => h s (.tail _ hs)
  | stmt (.decl _ _ line) => exact List.forall_mem_singleton.2 ⟨[], line, h⟩
  | stmt (.assign ..) | stmt (.ret ..) | stmt (.print ..) | stmt (.expr ..)
  | stmt (.labeled ..) => exact List.forall_mem_singleton.2 (hP _ _ h (.head _))
  | stmt (.cond _ _ none _) | stmt (.loop ..) =>
    exact forall_mem_pair (hP _ _ h (.head _)) (hP _ _ h (.tail _ (.head _)))
  | stmt (.cond _ _ (some _) _) =>
    exact List.forall_mem_cons.2 ⟨hP _ _ h (.head _), forall_mem_pair
      (hP _ _ h (.tail _ (.head _))) (hP _ _ h (.tail _ (.tail _ (.head _))))⟩
  | stmt (.repeatUntil body test _) =>
    refine forall_mem_pair (fun s hs => hP _ _ h ?_) (hP _ _ h ?_)
    · exact List.mem_append_left _ (List.mem_map_of_mem hs)
    · exact List.mem_append_right _ (.head _)
  | stmt (.block body _) =>
    exact List.forall_mem_singleton.2 fun s hs => hP _ _ h (List.mem_map_of_mem hs)
  | stmt (.fn header body) =>
    simp only [Task.parts]
    split
    · exact List.forall_mem_singleton.2 fun s hs => hP _ _ h (List.mem_map_of_mem hs)
    · exact List.forall_mem_nil _

end Task

/-- **The check comes by nodes of the program only.** -/
theorem Seen.within {p : Program} {t : SymbolTable} {k : Task} (h : Seen p t k) :
    k.Within (· ∈ (Node.program p).walk) := by
  induction h with
  | program => exact Node.stmt_mem_walk p
  | part _ hj ih => exact ih.parts (fun _ _ => Node.child_mem_walk) _ hj

end Imperative

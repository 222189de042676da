import Imperative.Program.Tree

/-!
A uniform view of programs, statements and expressions as nodes of one tree.

The children of a node come in source order, so a loop that tests last has its test last. A child
is smaller than its node, so walking down the tree ends.
-/

namespace Imperative

inductive Node
  | program (p : Program)
  | stmt (s : Stmt)
  | expr (e : Expr)

namespace Node

/-- A program has no line of its own. -/
def line : Node → Nat
  | program _ => 0
  | stmt s => s.line
  | expr e => e.line

def exprChildren : Expr → List Node
  | .lit _ | .var _ _ => []
  | .bin _ l r _ => [expr l, expr r]
  | .call _ args _ => args.map expr

def stmtChildren : Stmt → List Node
  | .decl _ inits _ => inits.map fun i => expr i.value
  | .cond test yes no _ => expr test :: stmt yes :: no.toList.map stmt
  | .loop test body _ => [expr test, stmt body]
  | .repeatUntil body test _ => body.map stmt ++ [expr test]
  | .fn _ body | .block body _ => body.map stmt
  | .assign _ e _ | .ret e _ | .print e _ | .expr e _ => [expr e]
  | .brk _ | .cont _ => []
  | .labeled _ body _ => [stmt body]

def children : Node → List Node
  | program p => p.map stmt
  | stmt s => stmtChildren s
  | expr e => exprChildren e

/-- The word for the kind of the node. -/
def tag : Node → String
  | program _ => "program"
  | stmt (.decl ..) => "decl"
  | stmt (.assign ..) => "assign"
  | stmt (.cond ..) => "if"
  | stmt (.loop ..) => "while"
  | stmt (.repeatUntil ..) => "repeat"
  | stmt (.fn ..) => "fn"
  | stmt (.block ..) => "block"
  | stmt (.ret ..) => "return"
  | stmt (.brk ..) => "break"
  | stmt (.cont ..) => "continue"
  | stmt (.print ..) => "print"
  | stmt (.labeled ..) => "label"
  | stmt (.expr ..) => "expr"
  | expr (.lit ..) => "lit"
  | expr (.var ..) => "var"
  | expr (.bin ..) => "bin"
  | expr (.call ..) => "call"

theorem sizeOf_exprChildren {e : Expr} {c : Node} (h : c ∈ exprChildren e) :
    sizeOf c < 1 + sizeOf e := by
  cases e with
  | lit _ | var _ _ => simp [exprChildren] at h
  | bin _ l r _ =>
    rcases (by simpa [exprChildren] using h : c = expr l ∨ c = expr r) with rfl | rfl <;>
      simp <;> omega
  | call _ args _ =>
    obtain ⟨a, ha, rfl⟩ := List.mem_map.1 h
    have := List.sizeOf_lt_of_mem ha
    simp; omega

theorem sizeOf_body {body : List Stmt} {c : Node} (h : c ∈ body.map stmt) :
    sizeOf c < 1 + sizeOf body := by
  obtain ⟨s, hs, rfl⟩ := List.mem_map.1 h
  have := List.sizeOf_lt_of_mem hs
  simp; omega

theorem sizeOf_stmtChildren {s : Stmt} {c : Node} (h : c ∈ stmtChildren s) :
    sizeOf c < 1 + sizeOf s := by
  cases s with
  | decl _ inits _ =>
    obtain ⟨⟨_, v, _⟩, hi, rfl⟩ := List.mem_map.1 h
    have := List.sizeOf_lt_of_mem hi
    simp at this ⊢; omega
  | cond test yes no _ =>
    rcases no with _ | no <;> simp [stmtChildren] at h
    · rcases h with rfl | rfl <;> simp <;> omega
    · rcases h with rfl | rfl | rfl <;> simp <;> omega
  | loop test body _ =>
    simp [stmtChildren] at h
    rcases h with rfl | rfl <;> simp <;> omega
  | repeatUntil body test _ =>
    rcases List.mem_append.1 h with h | h
    · have := sizeOf_body h
      simp; omega
    · simp at h; subst h; simp; omega
  | fn _ body | block body _ =>
    have := sizeOf_body h
    simp; omega
  | assign _ e _ | ret e _ | print e _ | expr e _ | labeled _ e _ =>
    simp [stmtChildren] at h; subst h; simp; omega
  | brk _ | cont _ => simp [stmtChildren] at h

theorem sizeOf_children {n c : Node} (h : c ∈ n.children) : sizeOf c < sizeOf n := by
  cases n with
  | program p => have := sizeOf_body h; simp; omega
  | stmt s => have := sizeOf_stmtChildren h; simp; omega
  | expr e => have := sizeOf_exprChildren h; simp; omega

/-- The node and all nodes below it, parents first and siblings in source order. -/
def walk (n : Node) : List Node := n :: n.children.attach.flatMap fun c => c.1.walk
termination_by sizeOf n
decreasing_by exact sizeOf_children c.2

end Node

end Imperative

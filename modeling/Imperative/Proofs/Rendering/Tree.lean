import Mathlib.Data.List.Forall2
import Mathlib.Logic.Function.Basic
import Imperative.Program.Tree

/-!
One program written in two ways.

Names may be exchanged for others as long as they stay apart. Positions may be other ones, and
labels may be put around statements or taken away, or neither may happen. What is left is the same
in both programs.
-/

namespace Imperative

/-- How the second of two programs may differ from the first. -/
structure Rendering where
  /-- What stands in the second program for a name of the first. -/
  name : String → String
  name_injective : name.Injective
  /-- Positions and labels may differ. -/
  free : Bool

/-- Part of a position: the same in both programs, unless positions may differ. -/
def Rendering.Pins {α : Type} (τ : Rendering) (a a' : α) : Prop := τ.free = false → a' = a

variable {τ : Rendering}

inductive Expr.Rendered (τ : Rendering) : Expr → Expr → Prop
  | lit (l : Literal) {n : Nat} : τ.Pins l.line n → Rendered τ (.lit l) (.lit { l with line := n })
  | var (name : String) {n n' : Nat} :
    τ.Pins n n' → Rendered τ (.var name n) (.var (τ.name name) n')
  | bin (op : Operator) {l l' r r' : Expr} {n n' : Nat} :
    Rendered τ l l' → Rendered τ r r' → τ.Pins n n' →
      Rendered τ (.bin op l r n) (.bin op l' r' n')
  | call (name : String) {args args' : List Expr} {n n' : Nat} :
    List.Forall₂ (Rendered τ) args args' → τ.Pins n n' →
      Rendered τ (.call name args n) (.call (τ.name name) args' n')

structure Init.Rendered (τ : Rendering) (i i' : Init) : Prop where
  name : i'.name = τ.name i.name
  value : i.value.Rendered τ i'.value
  line : τ.Pins i.line i'.line

structure Param.Rendered (τ : Rendering) (p p' : Param) : Prop where
  name : p'.name = τ.name p.name
  type : p'.type = p.type
  line : τ.Pins p.line p'.line

structure FnHeader.Rendered (τ : Rendering) (h h' : FnHeader) : Prop where
  name : h'.name = τ.name h.name
  returnType : h'.returnType = h.returnType
  params : List.Forall₂ (Param.Rendered τ) h.params h'.params
  bodyLine : τ.Pins h.bodyLine h'.bodyLine
  line : τ.Pins h.line h'.line

inductive Stmt.Rendered (τ : Rendering) : Stmt → Stmt → Prop
  | decl (type : Ty) {is is' : List Init} {n n' : Nat} :
    List.Forall₂ (Init.Rendered τ) is is' → τ.Pins n n' →
      Rendered τ (.decl type is n) (.decl type is' n')
  | assign (name : String) {e e' : Expr} {n n' : Nat} :
    e.Rendered τ e' → τ.Pins n n' → Rendered τ (.assign name e n) (.assign (τ.name name) e' n')
  | cond {test test' : Expr} {yes yes' : Stmt} {n n' : Nat} :
    test.Rendered τ test' → Rendered τ yes yes' → τ.Pins n n' →
      Rendered τ (.cond test yes none n) (.cond test' yes' none n')
  | condElse {test test' : Expr} {yes yes' no no' : Stmt} {n n' : Nat} :
    test.Rendered τ test' → Rendered τ yes yes' → Rendered τ no no' → τ.Pins n n' →
      Rendered τ (.cond test yes (some no) n) (.cond test' yes' (some no') n')
  | loop {test test' : Expr} {body body' : Stmt} {n n' : Nat} :
    test.Rendered τ test' → Rendered τ body body' → τ.Pins n n' →
      Rendered τ (.loop test body n) (.loop test' body' n')
  | repeatUntil {body body' : List Stmt} {test test' : Expr} {n n' : Nat} :
    List.Forall₂ (Rendered τ) body body' → test.Rendered τ test' → τ.Pins n n' →
      Rendered τ (.repeatUntil body test n) (.repeatUntil body' test' n')
  | fn {h h' : FnHeader} {body body' : List Stmt} :
    h.Rendered τ h' → List.Forall₂ (Rendered τ) body body' →
      Rendered τ (.fn h body) (.fn h' body')
  | block {body body' : List Stmt} {n n' : Nat} :
    List.Forall₂ (Rendered τ) body body' → τ.Pins n n' →
      Rendered τ (.block body n) (.block body' n')
  | ret {e e' : Expr} {n n' : Nat} :
    e.Rendered τ e' → τ.Pins n n' → Rendered τ (.ret e n) (.ret e' n')
  | brk {n n' : Nat} : τ.Pins n n' → Rendered τ (.brk n) (.brk n')
  | cont {n n' : Nat} : τ.Pins n n' → Rendered τ (.cont n) (.cont n')
  | print {e e' : Expr} {n n' : Nat} :
    e.Rendered τ e' → τ.Pins n n' → Rendered τ (.print e n) (.print e' n')
  | labeled (label : String) {body body' : Stmt} {n n' : Nat} :
    Rendered τ body body' → τ.Pins n n' →
      Rendered τ (.labeled label body n) (.labeled label body' n')
  /-- A label that the second program lacks. -/
  | dropped (label : String) {body s' : Stmt} (n : Nat) :
    τ.free = true → Rendered τ body s' → Rendered τ (.labeled label body n) s'
  /-- A label that the first program lacks. -/
  | added (label : String) {s body' : Stmt} (n : Nat) :
    τ.free = true → Rendered τ s body' → Rendered τ s (.labeled label body' n)
  | expr {e e' : Expr} {n n' : Nat} :
    e.Rendered τ e' → τ.Pins n n' → Rendered τ (.expr e n) (.expr e' n')

structure FnDecl.Rendered (τ : Rendering) (d d' : FnDecl) : Prop where
  header : d.header.Rendered τ d'.header
  body : List.Forall₂ (Stmt.Rendered τ) d.body d'.body

def Program.Rendered (τ : Rendering) (p p' : Program) : Prop :=
  List.Forall₂ (Stmt.Rendered τ) p p'

lemma Stmt.Rendered.line {s s' : Stmt} (h : s.Rendered τ s') : τ.Pins s.line s'.line := by
  cases h with
  | dropped _ _ hfree _ | added _ _ hfree _ => exact fun h => absurd h (by simp [hfree])
  | fn hh _ => exact hh.line
  | decl _ _ hn | assign _ _ hn | cond _ _ hn | condElse _ _ _ hn | loop _ _ hn
  | repeatUntil _ _ hn | block _ hn | ret _ hn | brk hn | cont hn | print _ hn | labeled _ _ hn
  | expr _ hn => exact hn

/-! ### Trees written anew -/

/-- What takes the place of names and lines in a tree, and whether its labels stay. -/
structure Spelling where
  name : String → String
  line : Nat → Nat
  labels : Bool

namespace Spelling

/-- Everything as it is. -/
def same : Spelling := ⟨id, id, true⟩

/-- Other names only. -/
def renamed (f : String → String) : Spelling := ⟨f, id, true⟩

/-- No lines and no labels. -/
def bare : Spelling := ⟨id, fun _ => 0, false⟩

/-- Two spellings of one tree differ as the rendering allows. -/
structure Allowed (τ : Rendering) (r r' : Spelling) : Prop where
  name : ∀ name, r'.name name = τ.name (r.name name)
  line : ∀ n, τ.Pins (r.line n) (r'.line n)
  labels : τ.free = true ∨ r.labels = true ∧ r'.labels = true

end Spelling

mutual

def Expr.respell (r : Spelling) : Expr → Expr
  | .lit l => .lit { l with line := r.line l.line }
  | .var name n => .var (r.name name) (r.line n)
  | .bin op a b n => .bin op (a.respell r) (b.respell r) (r.line n)
  | .call name args n => .call (r.name name) (Expr.respellAll r args) (r.line n)

def Expr.respellAll (r : Spelling) : List Expr → List Expr
  | [] => []
  | e :: es => e.respell r :: Expr.respellAll r es

end

def Init.respell (r : Spelling) (i : Init) : Init :=
  ⟨r.name i.name, i.value.respell r, r.line i.line⟩

def Param.respell (r : Spelling) (p : Param) : Param := ⟨r.name p.name, p.type, r.line p.line⟩

def FnHeader.respell (r : Spelling) (h : FnHeader) : FnHeader :=
  ⟨r.name h.name, h.returnType, h.params.map (.respell r), r.line h.bodyLine, r.line h.line⟩

mutual

def Stmt.respell (r : Spelling) : Stmt → Stmt
  | .decl type is n => .decl type (is.map (.respell r)) (r.line n)
  | .assign name e n => .assign (r.name name) (e.respell r) (r.line n)
  | .cond test yes none n => .cond (test.respell r) (yes.respell r) none (r.line n)
  | .cond test yes (some no) n =>
    .cond (test.respell r) (yes.respell r) (some (no.respell r)) (r.line n)
  | .loop test body n => .loop (test.respell r) (body.respell r) (r.line n)
  | .repeatUntil body test n =>
    .repeatUntil (Stmt.respellAll r body) (test.respell r) (r.line n)
  | .fn h body => .fn (h.respell r) (Stmt.respellAll r body)
  | .block body n => .block (Stmt.respellAll r body) (r.line n)
  | .ret e n => .ret (e.respell r) (r.line n)
  | .brk n => .brk (r.line n)
  | .cont n => .cont (r.line n)
  | .print e n => .print (e.respell r) (r.line n)
  | .labeled label body n =>
    if r.labels then .labeled label (body.respell r) (r.line n) else body.respell r
  | .expr e n => .expr (e.respell r) (r.line n)

def Stmt.respellAll (r : Spelling) : List Stmt → List Stmt
  | [] => []
  | s :: ss => s.respell r :: Stmt.respellAll r ss

end

/-- The program with every variable, parameter and function renamed. -/
def Program.rename (f : String → String) (p : Program) : Program := Stmt.respellAll (.renamed f) p

/-- The program with every line set to zero and every labeled statement replaced by its body. -/
def Program.bare (p : Program) : Program := Stmt.respellAll .bare p

mutual

@[simp] lemma Expr.respell_same : ∀ e : Expr, e.respell .same = e
  | .lit _ => rfl
  | .var _ _ => rfl
  | .bin op a b n => by
    simp only [respell, respell_same a, respell_same b]
    rfl
  | .call name args n => by
    simp only [respell, respellAll_same args]
    rfl

@[simp] lemma Expr.respellAll_same : ∀ es : List Expr, Expr.respellAll .same es = es
  | [] => rfl
  | e :: es => by simp only [respellAll, respell_same e, respellAll_same es]

end

@[simp] lemma Init.respell_same : Init.respell .same = id := by
  funext i
  simp only [respell, Expr.respell_same]
  rfl

@[simp] lemma FnHeader.respell_same (h : FnHeader) : h.respell .same = h := by
  obtain ⟨name, returnType, params, bodyLine, line⟩ := h
  exact congrArg (FnHeader.mk _ _ · _ _) (List.map_id params)

mutual

@[simp] lemma Stmt.respell_same : ∀ s : Stmt, s.respell .same = s
  | .decl _ is _ => by
    simp only [respell, Init.respell_same, List.map_id]
    rfl
  | .cond _ yes none _ => by
    simp only [respell, Expr.respell_same, respell_same yes]
    rfl
  | .cond _ yes (some no) _ => by
    simp only [respell, Expr.respell_same, respell_same yes, respell_same no]
    rfl
  | .loop _ body _ => by
    simp only [respell, Expr.respell_same, respell_same body]
    rfl
  | .repeatUntil body _ _ => by
    simp only [respell, Expr.respell_same, respellAll_same body]
    rfl
  | .fn _ body => by simp only [respell, FnHeader.respell_same, respellAll_same body]
  | .block body _ => by
    simp only [respell, respellAll_same body]
    rfl
  | .brk _ | .cont _ => rfl
  | .labeled label body n => by
    simp only [respell, respell_same body]
    rfl
  | .assign _ _ _ | .ret _ _ | .print _ _ | .expr _ _ => by
    simp only [respell, Expr.respell_same]
    rfl

@[simp] lemma Stmt.respellAll_same : ∀ ss : List Stmt, Stmt.respellAll .same ss = ss
  | [] => rfl
  | s :: ss => by simp only [respellAll, respell_same s, respellAll_same ss]

end

namespace Spelling.Allowed

variable {r r' : Spelling}

mutual

lemma expr (h : Allowed τ r r') : ∀ e : Expr, (e.respell r).Rendered τ (e.respell r')
  | .lit l => by
    unfold Expr.respell
    exact .lit { l with line := r.line l.line } (h.line l.line)
  | .var name n => by
    unfold Expr.respell
    rw [h.name]
    exact .var _ (h.line n)
  | .bin op a b n => by
    unfold Expr.respell
    exact .bin op (h.expr a) (h.expr b) (h.line n)
  | .call name args n => by
    unfold Expr.respell
    rw [h.name]
    exact .call _ (h.exprs args) (h.line n)

lemma exprs (h : Allowed τ r r') : ∀ es : List Expr,
    List.Forall₂ (Expr.Rendered τ) (Expr.respellAll r es) (Expr.respellAll r' es)
  | [] => .nil
  | e :: es => .cons (h.expr e) (h.exprs es)

end

lemma inits (h : Allowed τ r r') (is : List Init) :
    List.Forall₂ (Init.Rendered τ) (is.map (.respell r)) (is.map (.respell r')) :=
  List.forall₂_map_left_iff.2 <| List.forall₂_map_right_iff.2 <| List.forall₂_same.2 fun i _ =>
    ⟨h.name i.name, h.expr i.value, h.line i.line⟩

lemma params (h : Allowed τ r r') (ps : List Param) :
    List.Forall₂ (Param.Rendered τ) (ps.map (.respell r)) (ps.map (.respell r')) :=
  List.forall₂_map_left_iff.2 <| List.forall₂_map_right_iff.2 <| List.forall₂_same.2 fun p _ =>
    ⟨h.name p.name, rfl, h.line p.line⟩

lemma header (h : Allowed τ r r') (hd : FnHeader) : (hd.respell r).Rendered τ (hd.respell r') :=
  ⟨h.name hd.name, rfl, h.params hd.params, h.line hd.bodyLine, h.line hd.line⟩

mutual

lemma stmt (h : Allowed τ r r') : ∀ s : Stmt, (s.respell r).Rendered τ (s.respell r')
  | .decl type is n => by
    unfold Stmt.respell
    exact .decl type (h.inits is) (h.line n)
  | .assign name e n => by
    unfold Stmt.respell
    rw [h.name]
    exact .assign _ (h.expr e) (h.line n)
  | .cond test yes none n => by
    unfold Stmt.respell
    exact .cond (h.expr test) (h.stmt yes) (h.line n)
  | .cond test yes (some no) n => by
    unfold Stmt.respell
    exact .condElse (h.expr test) (h.stmt yes) (h.stmt no) (h.line n)
  | .loop test body n => by
    unfold Stmt.respell
    exact .loop (h.expr test) (h.stmt body) (h.line n)
  | .repeatUntil body test n => by
    unfold Stmt.respell
    exact .repeatUntil (h.stmts body) (h.expr test) (h.line n)
  | .fn hd body => by
    unfold Stmt.respell
    exact .fn (h.header hd) (h.stmts body)
  | .block body n => by
    unfold Stmt.respell
    exact .block (h.stmts body) (h.line n)
  | .ret e n => by
    unfold Stmt.respell
    exact .ret (h.expr e) (h.line n)
  | .brk n => .brk (h.line n)
  | .cont n => .cont (h.line n)
  | .print e n => by
    unfold Stmt.respell
    exact .print (h.expr e) (h.line n)
  | .labeled label body n => by
    have hbody := h.stmt body
    unfold Stmt.respell
    obtain hfree | ⟨hr, hr'⟩ := h.labels
    · split
      · split
        · exact .labeled label hbody (h.line n)
        · exact .dropped label _ hfree hbody
      · split
        · exact .added label _ hfree hbody
        · exact hbody
    · rw [if_pos hr, if_pos hr']
      exact .labeled label hbody (h.line n)
  | .expr e n => by
    unfold Stmt.respell
    exact .expr (h.expr e) (h.line n)

lemma stmts (h : Allowed τ r r') : ∀ ss : List Stmt,
    List.Forall₂ (Stmt.Rendered τ) (Stmt.respellAll r ss) (Stmt.respellAll r' ss)
  | [] => .nil
  | s :: ss => .cons (h.stmt s) (h.stmts ss)

end

end Spelling.Allowed

end Imperative

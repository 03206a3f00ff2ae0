import RecordQuery.Proofs.Filter.Arguments

/-
  Paths into expressions.

  Key definitions include:
    * `RecordQuery.Expr.subtree?`
    * `RecordQuery.Expr.replace`
    * `RecordQuery.Expr.paths`
    * `RecordQuery.Expr.argumentAt?`

  Key theorems include:
    * `RecordQuery.Expr.mem_paths_iff`
    * `RecordQuery.Expr.arguments_eq_filterMap_paths`

  A path leads from the root of an expression to one of its
  nodes.  Paths are listed in pre-order: a node comes before
  its operands, and the left one before the right one.
-/

------------------------------------------------------------
-- Paths
------------------------------------------------------------

namespace RecordQuery

/- The operand that a path goes on to. -/
inductive Side where
  | left
  | right
  deriving DecidableEq, Repr

/- The operands chosen on the way down from the root. -/
abbrev Path : Type :=
  List Side

namespace Expr

/- The subtree at a path, if the path leads to a node. -/
def subtree? : Expr → Path → Option Expr
| e, [] => some e
| .unary _ right, .right :: path => right.subtree? path
| .binary _ left _, .left :: path => left.subtree? path
| .binary _ _ right, .right :: path => right.subtree? path
| _, _ :: _ => none

/- An expression with another subtree at a path. -/
def replace
    (new : Expr) :
    Expr → Path → Expr
| _, [] => new
| .unary operator right, .right :: path =>
    .unary operator (replace new right path)
| .binary operator left right, .left :: path =>
    .binary operator (replace new left path) right
| .binary operator left right, .right :: path =>
    .binary operator left (replace new right path)
| e, _ :: _ => e

/- The paths to all nodes of an expression, in pre-order. -/
def paths : Expr → List Path
| .column _ => [[]]
| .argument _ => [[]]
| .unary _ right => [] :: right.paths.map (.right :: ·)
| .binary _ left right =>
    [] ::
      (left.paths.map (.left :: ·) ++
        right.paths.map (.right :: ·))

/- The argument that an expression is, if it is one. -/
def argument? : Expr → Option Argument
| .argument value => some value
| _ => none

/- The argument at a path, if there is one. -/
def argumentAt?
    (e : Expr)
    (path : Path) :
    Option Argument :=
  (e.subtree? path).bind argument?

end Expr

end RecordQuery

------------------------------------------------------------
-- Paths And Nodes
------------------------------------------------------------

namespace RecordQuery

namespace Expr

/- The listed paths are those that lead to a node. -/
theorem mem_paths_iff
    (e : Expr)
    (path : Path) :
    path ∈ e.paths ↔ (e.subtree? path).isSome = true := by
  induction e generalizing path with
  | column field =>
      cases path <;> simp [paths, subtree?]
  | argument value =>
      cases path <;> simp [paths, subtree?]
  | unary operator right ih =>
      cases path with
      | nil => simp [paths, subtree?]
      | cons side path =>
          cases side <;> simp [paths, subtree?, ih]
  | binary operator left right leftIH rightIH =>
      cases path with
      | nil => simp [paths, subtree?]
      | cons side path =>
          cases side <;>
            simp [paths, subtree?, leftIH, rightIH]

/- The replacement is what is found at the path. -/
theorem subtree?_replace
    (e new : Expr)
    (path : Path)
    (hPath : path ∈ e.paths) :
    (replace new e path).subtree? path = some new := by
  induction e generalizing path with
  | column field =>
      have hRoot : path = [] := by simpa [paths] using hPath
      subst hRoot
      cases new <;> rfl
  | argument value =>
      have hRoot : path = [] := by simpa [paths] using hPath
      subst hRoot
      cases new <;> rfl
  | unary operator right ih =>
      cases path with
      | nil => cases new <;> rfl
      | cons side path =>
          cases side with
          | left => simp [paths] at hPath
          | right =>
              exact ih path (by simpa [paths] using hPath)
  | binary operator left right leftIH rightIH =>
      cases path with
      | nil => cases new <;> rfl
      | cons side path =>
          cases side with
          | left =>
              exact
                leftIH path (by simpa [paths] using hPath)
          | right =>
              exact
                rightIH path (by simpa [paths] using hPath)

/- Pre-order meets the arguments from left to right. -/
theorem arguments_eq_filterMap_paths
    (e : Expr) :
    e.arguments = e.paths.filterMap e.argumentAt? := by
  induction e with
  | column field => rfl
  | argument value => rfl
  | unary operator right ih =>
      rw [arguments, ih, paths, List.filterMap_cons_none rfl,
        List.filterMap_map]
      rfl
  | binary operator left right leftIH rightIH =>
      rw [arguments, leftIH, rightIH, paths,
        List.filterMap_cons_none rfl, List.filterMap_append,
        List.filterMap_map, List.filterMap_map]
      rfl

end Expr

end RecordQuery

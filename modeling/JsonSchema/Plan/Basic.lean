import JsonSchema.Keywords
import JsonSchema.Options

/-!
# Plans

A plan is what remains of a schema when its text has been parsed and its references have been resolved: nodes by
key, with links between them. A schema may be a part of itself, so the links of a plan can form circles; the link
that closes one is weak, it does not keep its target.

## What is here

* `Link`, `PlanNode`, `PlanTable`.
* `Keywords.handles`, `PlanNode.links` — where a node leads to.
* `runPlan` — **holding an instance against a plan**. Levels are counted as for a schema that is applied as it
  is read.
-/

set_option autoImplicit false

namespace JsonSchema

/-- The way from a node to another one. -/
inductive Link where
  | strong (key : String)
  /-- The target was still being compiled when the link was made. -/
  | weak (key : String)
deriving DecidableEq, Inhabited

/-- The key of the node that a link leads to. -/
def Link.key : Link → String
  | .strong key => key
  | .weak key => key

/-- What remains of a schema. -/
inductive PlanNode where
  | accept
  | notAnObject (kind : String)
  /-- A failure met while compiling. It is reported when the node is reached. -/
  | fault (f : Fault)
  | reference (target : Link)
  | keywords (k : Keywords Link)
deriving Inhabited

/-- Nodes by key. -/
abbrev PlanTable := List (String × PlanNode)

/-- The handles in keywords, in the order of reading. -/
def Keywords.handles {S : Type} (k : Keywords S) : List S :=
  ((k.traverse (m := StateM (List S)) fun x => modify (· ++ [x])).run []).2

/-- The links of a node. -/
def PlanNode.links : PlanNode → List Link
  | .reference target => [target]
  | .keywords k => k.handles
  | _ => []

/-- The keys to which strong links of a node lead. -/
def PlanNode.strongKeys (n : PlanNode) : List String :=
  n.links.filterMap fun
    | .strong key => some key
    | .weak _ => none

/-- Holds an instance against a plan. The first number is how many levels may still be entered; `find` says what
links lead to. -/
def runPlan (o : Options) (find : Link → Option PlanNode) (depth : Nat) (link : Link) (i : Instance)
    (path : String) (segment : Segment) (s : ErrorSet) : Run ErrorSet :=
  match find link with
  | none => .fail (.incompletePlan link.key)
  | some node =>
    match depth with
    | 0 => .fail (.depthExceeded path o.maxDepth)
    | depth + 1 =>
      match node with
      | .accept => pure s
      | .notAnObject kind => .fail (.notAnObject path kind)
      | .fault f => .fail f
      | .reference target => runPlan o find depth target i path segment s
      | .keywords k =>
        let apply : Checker Link := fun x i parent segment s =>
          runPlan o find depth x i (extendPath parent segment) segment s
        k.check o.mode o.formats apply i path segment s
termination_by structural depth

end JsonSchema

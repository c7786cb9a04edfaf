import ViewportScaling.Document.Store

/-!
# Walking through documents

The rules below a container are visited depth first in document order. A visitor may change the store
while it is walked: the children of a container are listed when the walk reaches it, so that rules
removed after that are still visited. At-rules are nested no deeper than there are objects, and that
bounds the walk.
-/

namespace ViewportScaling.Document.Store

open Css

/-- Visits the rules among and below given objects, to a depth, and carries a result along. -/
def visitRules {α : Type} (visit : α → Store → Id → α × Store) :
    Nat → α → Store → List Id → α × Store
  | _, result, store, [] => (result, store)
  | depth, result, store, id :: ids =>
    match store.content? id with
    | some (.rule _ _) =>
      let (next, changed) := visit result store id
      visitRules visit depth next changed ids
    | some (.atRule _ _ _) =>
      match depth with
      | 0 => visitRules visit 0 result store ids
      | inner + 1 =>
        let (next, changed) := visitRules visit inner result store (store.children id)
        visitRules visit (inner + 1) next changed ids
    | _ => visitRules visit depth result store ids
termination_by depth _ _ ids => (depth, ids.length)

/-- Visits the rules below a container and carries a result along. -/
def foldRules {α : Type} (store : Store) (container : Id) (visit : α → Store → Id → α × Store)
    (start : α) : α × Store :=
  visitRules visit store.objects.size start store (store.children container)

/-- The rules below a container, in document order. -/
def rulesBelow (store : Store) (container : Id) : List Id :=
  (store.foldRules container (fun rules store id => (rules ++ [id], store)) []).1

/-- The selector and the declarations of a rule. -/
def rule? (store : Store) (id : Id) : Option (String × List Declaration) :=
  match store.content? id with
  | some (.rule selector declarations) => some (selector, declarations)
  | _ => none

/-- The tree of an object, to a depth; a sheet is no node. -/
def nodeWithin? (store : Store) (depth : Nat) (id : Id) : Option Node :=
  match store.content? id with
  | some (.declaration content) => some (.declaration content)
  | some (.rule selector declarations) => some (.rule selector declarations)
  | some (.atRule name params hasBlock) =>
    match depth with
    | 0 => some (.atRule name params hasBlock [])
    | inner + 1 =>
      some (.atRule name params hasBlock ((store.children id).filterMap (nodeWithin? store inner)))
  | _ => none

/-- The tree of an object; a sheet is no node. -/
def node? (store : Store) (id : Id) : Option Node := store.nodeWithin? store.objects.size id

/-- The trees of the children of a container. -/
def nodes (store : Store) (container : Id) : Stylesheet :=
  (store.children container).filterMap store.node?

/-- Whether two objects are of one kind and hold the same, whatever their parents. -/
def same (store : Store) (first second : Id) : Bool :=
  match store.content? first, store.content? second with
  | some .sheet, some .sheet => store.nodes first == store.nodes second
  | some .sheet, _ | _, some .sheet => false
  | _, _ => store.node? first == store.node? second

/-- The selectors of the rules that are children of a container. -/
def selectors (store : Store) (container : Id) : List String :=
  (store.children container).filterMap fun child => (store.rule? child).map Prod.fst

/-- The name and parameters of an at-rule. -/
def atRule? (store : Store) (id : Id) : Option (String × String) :=
  match store.content? id with
  | some (.atRule name params _) => some (name, params)
  | _ => none

/-- The names of the at-rules that are children of a container. -/
def atRuleNames (store : Store) (container : Id) : List String :=
  (store.children container).filterMap fun child => (store.atRule? child).map Prod.fst

/-- Folds the rules below a container that share a selector into the first of them, which takes over
their declarations in the order of the walk. -/
def mergeRules (store : Store) (container : Id) : Store :=
  (store.foldRules container mergeInto []).2
where
  /-- Folds a rule into the first rule with its selector, or remembers it as the first. -/
  mergeInto (seen : List (String × Id)) (store : Store) (id : Id) : List (String × Id) × Store :=
    match store.rule? id with
    | none => (seen, store)
    | some (selector, declarations) =>
      match seen.lookup selector with
      | none => (seen ++ [(selector, id)], store)
      | some first => (seen, (store.addDeclarations first declarations).detach id)

end ViewportScaling.Document.Store

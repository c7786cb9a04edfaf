import ViewportScaling.Css.Declaration

/-!
# Stylesheets as trees

A stylesheet is a list of nodes. A node is a rule, an at-rule with the nodes of its block, or a
declaration that stands directly in such a block. Equality of trees is decidable.
-/

namespace ViewportScaling.Css

/-- A part of a stylesheet. -/
inductive Node where
  /-- A declaration that stands in the block of an at-rule. -/
  | declaration (content : Declaration)
  /-- A selector with its declarations. -/
  | rule (selector : String) (declarations : List Declaration)
  /-- An at-rule with its name, its parameters, whether it is written with a block, and the nodes
  of the block. -/
  | atRule (name params : String) (hasBlock : Bool) (children : List Node)
deriving Repr

/-- A stylesheet: its nodes in order. -/
abbrev Stylesheet := List Node

mutual

/-- Whether two nodes are the same tree. -/
def Node.same : Node → Node → Bool
  | .declaration a, .declaration b => a == b
  | .rule s a, .rule t b => s == t && a == b
  | .atRule n p h a, .atRule m q k b => n == m && p == q && h == k && Node.sameAll a b
  | _, _ => false

/-- Whether two lists of nodes are the same trees in the same order. -/
def Node.sameAll : List Node → List Node → Bool
  | [], [] => true
  | a :: as, b :: bs => a.same b && Node.sameAll as bs
  | _, _ => false

end

mutual

/-- The comparison of two trees tells whether they are equal. -/
theorem Node.same_iff : ∀ a b : Node, a.same b = true ↔ a = b
  | .declaration a, .declaration b => by simp [Node.same]
  | .rule s a, .rule t b => by simp [Node.same]
  | .atRule n p h a, .atRule m q k b => by
    simp [Node.same, Node.sameAll_iff a b, and_assoc]
  | .declaration _, .rule _ _ => by simp [Node.same]
  | .declaration _, .atRule _ _ _ _ => by simp [Node.same]
  | .rule _ _, .declaration _ => by simp [Node.same]
  | .rule _ _, .atRule _ _ _ _ => by simp [Node.same]
  | .atRule _ _ _ _, .declaration _ => by simp [Node.same]
  | .atRule _ _ _ _, .rule _ _ => by simp [Node.same]

theorem Node.sameAll_iff : ∀ as bs : List Node, Node.sameAll as bs = true ↔ as = bs
  | [], [] => by simp [Node.sameAll]
  | [], _ :: _ => by simp [Node.sameAll]
  | _ :: _, [] => by simp [Node.sameAll]
  | a :: as, b :: bs => by simp [Node.sameAll, Node.same_iff a b, Node.sameAll_iff as bs]

end

instance : DecidableEq Node := fun a b => decidable_of_iff _ (Node.same_iff a b)

end ViewportScaling.Css

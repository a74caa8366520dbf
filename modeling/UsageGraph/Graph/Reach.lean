/-!
# Reach

The nodes that can be reached are found in layers: the starting nodes, those one step away, those two
steps away, and so on. Each node is in the first layer that can hold it.

* `layers`: the layers after the first one;
* `reach`: the nodes of all layers.
-/

namespace UsageGraph

/-- **The layers after one whose nodes have been seen**: the new nodes among the neighbours of the
latest layer, as long as there are any, at most `fuel` times. -/
def layersFrom (next : String → List String) : Nat → List String → List String → List (List String)
  | 0, _, _ => []
  | fuel + 1, seen, layer =>
    match ((layer.flatMap next).eraseDups).filter fun p => !seen.contains p with
    | [] => []
    | p :: ps => (p :: ps) :: layersFrom next fuel (seen ++ p :: ps) (p :: ps)

/-- **The layers around the starting nodes**, which are not among them. The bound is the number of
nodes that can have neighbours. -/
def layers (next : String → List String) (bound : Nat) (roots : List String) :
    List (List String) :=
  layersFrom next (bound + 1) roots roots

/-- **The nodes that can be reached** from the starting nodes, these among them. -/
def reach (next : String → List String) (bound : Nat) (roots : List String) : List String :=
  roots ++ (layers next bound roots).flatten

/-- Texts in ascending order. -/
def sorted (texts : List String) : List String := texts.mergeSort fun a b => a ≤ b

end UsageGraph

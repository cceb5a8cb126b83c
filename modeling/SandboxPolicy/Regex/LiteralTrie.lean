/-!
A tree of the texts of a choice, byte by byte. A text that ends inside another closes what has been
added at its end so far, so that the order of preference between the texts is kept.
-/

namespace SandboxPolicy.Regex

/-- A tree of texts: the edges closed by a text that ends here, group by group, and the edges that
are still open. Edges are sorted by their byte. -/
inductive LiteralTrie where
  | node (closed : List (List (UInt8 × LiteralTrie))) (edges : List (UInt8 × LiteralTrie))
deriving Inhabited

namespace LiteralTrie

def empty : LiteralTrie := .node [] []

def ofBytes : List UInt8 → LiteralTrie
  | [] => .node [[]] []
  | byte :: rest => .node [] [(byte, ofBytes rest)]

def alter (byte : UInt8) (change : LiteralTrie → LiteralTrie) (fresh : LiteralTrie) :
    List (UInt8 × LiteralTrie) → List (UInt8 × LiteralTrie)
  | [] => [(byte, fresh)]
  | (other, child) :: rest =>
      if byte < other then (byte, fresh) :: (other, child) :: rest
      else if byte = other then (other, change child) :: rest
      else (other, child) :: alter byte change fresh rest

def insert : List UInt8 → LiteralTrie → LiteralTrie
  | [], .node closed edges =>
      if !closed.isEmpty && closed.all List.isEmpty && edges.isEmpty then .node closed edges
      else .node (closed ++ [edges]) []
  | byte :: rest, .node closed edges =>
      .node closed (alter byte (insert rest) (ofBytes rest) edges)

end LiteralTrie

end SandboxPolicy.Regex

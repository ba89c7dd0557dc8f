import FilterQuery.Filter.Node

/-!
The grammar of filters. A derivation is a tree: a chain of terms with connectives between them, where
a term is a clause, an `IN` clause with its list, or a chain in parentheses. The unfinished sequences
that a reader holds on its way are described by the parts of a derivation that are complete already:
one lead for each open parenthesis, and what stands behind the innermost one.
-/

namespace FilterQuery.Filter

mutual

inductive Term where
  | clause (c : Clause) (plain : c.comparator ≠ .inList)
  | membership (c : Clause) (awaits : c.comparator = .inList) (raw : Text) (items : List Text)
  | group (inner : Chain)

/-- A chain grows at its end, as it is read. -/
inductive Chain where
  | single (term : Term)
  | extend (front : Chain) (connective : Connective) (last : Term)

end

mutual

def Term.nodes : Term → List Node
  | .clause c _ => [.clause c]
  | .membership c _ raw items => [.clause c, .list raw items]
  | .group inner => .opening :: inner.nodes ++ [.closing]

def Chain.nodes : Chain → List Node
  | .single term => term.nodes
  | .extend front connective last => front.nodes ++ .connective connective :: last.nodes

end

/-- What stands before a term inside its parentheses. -/
inductive Lead where
  | start
  | after (front : Chain) (connective : Connective)

def Lead.nodes : Lead → List Node
  | start => []
  | after front connective => front.nodes ++ [.connective connective]

def Lead.complete : Lead → Term → Chain
  | start, term => .single term
  | after front connective, term => .extend front connective term

theorem Lead.nodes_complete (lead : Lead) (term : Term) :
    (lead.complete term).nodes = lead.nodes ++ term.nodes := by
  cases lead with
  | start => rfl
  | after front connective => simp [complete, nodes, Chain.nodes]

/-- The nodes up to the innermost open parenthesis, whose lead comes first in the list. -/
def enclosing : List Lead → List Node
  | [] => []
  | lead :: outer => enclosing outer ++ lead.nodes ++ [.opening]

/-- A term is due behind the nodes, inside `depth` parentheses. -/
def Awaiting (depth : Nat) (nodes : List Node) : Prop :=
  ∃ outer lead, outer.length = depth ∧ nodes = enclosing outer ++ Lead.nodes lead

/-- A term has just ended behind the nodes, inside `depth` parentheses. -/
def Ended (depth : Nat) (nodes : List Node) : Prop :=
  ∃ outer chain, outer.length = depth ∧ nodes = enclosing outer ++ Chain.nodes chain

theorem awaiting_nil : Awaiting 0 [] := ⟨[], .start, rfl, rfl⟩

theorem Awaiting.ended {depth : Nat} {nodes : List Node} (awaiting : Awaiting depth nodes)
    (term : Term) : Ended depth (nodes ++ term.nodes) := by
  obtain ⟨outer, lead, length, rfl⟩ := awaiting
  refine ⟨outer, lead.complete term, length, ?_⟩
  rw [Lead.nodes_complete, List.append_assoc]

theorem Awaiting.opened {depth : Nat} {nodes : List Node} (awaiting : Awaiting depth nodes) :
    Awaiting (depth + 1) (nodes ++ [.opening]) := by
  obtain ⟨outer, lead, length, rfl⟩ := awaiting
  exact ⟨lead :: outer, .start, by simp [length], by simp [enclosing, Lead.nodes]⟩

theorem Ended.connected {depth : Nat} {nodes : List Node} (ended : Ended depth nodes)
    (connective : Connective) : Awaiting depth (nodes ++ [.connective connective]) := by
  obtain ⟨outer, chain, length, rfl⟩ := ended
  exact ⟨outer, .after chain connective, length, by simp [Lead.nodes]⟩

theorem Ended.closed {depth : Nat} {nodes : List Node} (ended : Ended (depth + 1) nodes) :
    Ended depth (nodes ++ [.closing]) := by
  obtain ⟨outer, chain, length, rfl⟩ := ended
  cases outer with
  | nil => simp at length
  | cons lead outer =>
    refine ⟨outer, lead.complete (.group chain), by simpa using length, ?_⟩
    simp [Lead.nodes_complete, enclosing, Term.nodes]

theorem Ended.derivation {nodes : List Node} (ended : Ended 0 nodes) :
    ∃ chain : Chain, chain.nodes = nodes := by
  obtain ⟨outer, chain, length, rfl⟩ := ended
  have top : outer = [] := List.eq_nil_of_length_eq_zero length
  subst top
  exact ⟨chain, rfl⟩

/-! The last node says which of the two a sequence is, and so decides what may be pushed next. -/

def Node.endsTerm : Node → Bool
  | .clause c => c.comparator ≠ .inList
  | .closing => true
  | .list _ _ => true
  | _ => false

theorem Term.last_node (term : Term) :
    ∃ node, term.nodes.getLast? = some node ∧ node.endsTerm = true := by
  cases term with
  | clause c plain => exact ⟨.clause c, rfl, by simpa [Node.endsTerm] using plain⟩
  | membership c awaits raw items => exact ⟨.list raw items, rfl, rfl⟩
  | group inner => exact ⟨.closing, by simp [nodes, List.getLast?_cons], rfl⟩

theorem Chain.last_node (chain : Chain) :
    ∃ node, chain.nodes.getLast? = some node ∧ node.endsTerm = true := by
  cases chain with
  | single term => exact term.last_node
  | extend front connective last =>
    obtain ⟨node, found, ends⟩ := last.last_node
    exact ⟨node, by simp [nodes, found, List.getLast?_cons], ends⟩

theorem Ended.last {depth : Nat} {nodes : List Node} (ended : Ended depth nodes) :
    ∃ node, nodes.getLast? = some node ∧ node.endsTerm = true := by
  obtain ⟨outer, chain, _, rfl⟩ := ended
  obtain ⟨node, found, ends⟩ := chain.last_node
  exact ⟨node, by simp [found], ends⟩

theorem Ended.not_connective {depth : Nat} {nodes : List Node} {connective : Connective}
    (ended : Ended depth nodes) : nodes.getLast? ≠ some (.connective connective) := by
  obtain ⟨node, found, ends⟩ := ended.last
  rw [found]
  rintro ⟨⟩
  cases ends

theorem Awaiting.last {depth : Nat} {nodes : List Node} (awaiting : Awaiting depth nodes) :
    (depth = 0 ∧ nodes = []) ∨ nodes.getLast? = some .opening ∨
      ∃ connective, nodes.getLast? = some (.connective connective) := by
  obtain ⟨outer, lead, length, rfl⟩ := awaiting
  cases lead with
  | after front connective => exact .inr (.inr ⟨connective, by simp [Lead.nodes]⟩)
  | start =>
    cases outer with
    | nil => exact .inl ⟨length.symm, rfl⟩
    | cons lead outer => exact .inr (.inl (by simp [enclosing, Lead.nodes]))

theorem Awaiting.top {nodes : List Node} (awaiting : Awaiting 0 nodes) :
    nodes = [] ∨ ∃ connective, nodes.getLast? = some (.connective connective) := by
  obtain ⟨outer, lead, length, rfl⟩ := awaiting
  have none : outer = [] := List.eq_nil_of_length_eq_zero length
  subst none
  cases lead with
  | start => exact .inl rfl
  | after front connective => exact .inr ⟨connective, by simp [Lead.nodes]⟩

theorem Ended.obstacle_iff {depth : Nat} {nodes : List Node} (ended : Ended depth nodes)
    (node : Node) :
    obstacle nodes.getLast? node = none ↔ node.kind = .connective ∨ node.kind = .closing := by
  obtain ⟨last, found, ends⟩ := ended.last
  rw [found]
  cases last <;> cases node <;>
    simp_all [obstacle, Node.kind, Node.endsTerm, Node.awaitsList]

theorem Awaiting.obstacle_iff {depth : Nat} {nodes : List Node} (awaiting : Awaiting depth nodes)
    (node : Node) :
    obstacle nodes.getLast? node = none ↔
      node.kind = .clause ∨ node.kind = .opening ∨ (node.kind = .closing ∧ nodes = []) := by
  rcases awaiting.last with ⟨_, rfl⟩ | found | ⟨connective, found⟩
  · cases node <;> simp [obstacle, Node.kind]
  · have filled : nodes ≠ [] := by rintro rfl; simp at found
    rw [found]
    cases node <;> simp [obstacle, Node.kind, Node.awaitsList, filled]
  · have filled : nodes ≠ [] := by rintro rfl; simp at found
    rw [found]
    cases node <;> simp [obstacle, Node.kind, Node.awaitsList, filled]

/-- A push checks first and adds then, so that one that is refused has added nothing. -/
theorem offer_eq (nodes : List Node) (node : Node) (position : Nat) :
    offer nodes node position =
      match obstacle nodes.getLast? node with
      | some cause => (.error ⟨cause, position⟩, nodes)
      | none => (.ok (), nodes ++ [node]) := by
  have run (checked : Except CompileError Unit) :
      StateT.run (ExceptT.run (do
        checked
        modify (· ++ [node]) : ExceptT CompileError (StateM (List Node)) Unit)) nodes =
      match checked with
      | .error e => (.error e, nodes)
      | .ok () => (.ok (), nodes ++ [node]) := by
    cases checked <;> rfl
  refine (run (check nodes node position)).trans ?_
  rw [check]
  cases obstacle nodes.getLast? node <;> rfl

theorem push_eq (nodes : List Node) (node : Node) (position : Nat) :
    push nodes node position =
      match obstacle nodes.getLast? node with
      | some cause => .error ⟨cause, position⟩
      | none => .ok (nodes ++ [node]) := by
  rw [push, offer_eq]
  cases obstacle nodes.getLast? node <;> rfl

theorem push_ok {nodes after : List Node} {node : Node} {position : Nat}
    (pushed : push nodes node position = .ok after) :
    obstacle nodes.getLast? node = none ∧ after = nodes ++ [node] := by
  rw [push_eq] at pushed
  split at pushed
  · cases pushed
  · rename_i free
    cases pushed
    exact ⟨free, rfl⟩

theorem push_free {nodes : List Node} {node : Node} (position : Nat)
    (free : obstacle nodes.getLast? node = none) :
    push nodes node position = .ok (nodes ++ [node]) := by
  rw [push_eq, free]

end FilterQuery.Filter

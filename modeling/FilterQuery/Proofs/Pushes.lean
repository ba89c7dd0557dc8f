import Mathlib.Data.List.Induction
import FilterQuery.Proofs.Moves

/-!
What pushing node by node recognises. A push looks at the node before and at nothing else, so that pushes
alone let loose parentheses pass, and `IN` clauses without their lists. Together with a count of the
parentheses and with a list behind each `IN` clause they recognise the grammar, no more and no less.
-/

namespace FilterQuery.Filter

def pushAll (nodes : List Node) : List (Node × Nat) → Except CompileError (List Node)
  | [] => .ok nodes
  | (node, position) :: rest => do
    let nodes ← push nodes node position
    pushAll nodes rest

/-- No beginning of the sequence closes more parentheses than it opens, and the whole closes all. -/
structure Balanced (nodes : List Node) : Prop where
  nested : ∀ before, before <+: nodes → before.count .closing ≤ before.count .opening
  total : nodes.count .closing = nodes.count .opening

/-- Every `IN` clause has its list directly behind it. -/
def ListsFollow (nodes : List Node) : Prop :=
  ∀ before c after, nodes = before ++ .clause c :: after → c.comparator = .inList →
    ∃ raw items rest, after = .list raw items :: rest

def Admitted (before : List Node) : List Node → Prop
  | [] => True
  | node :: rest => obstacle before.getLast? node = none ∧ Admitted (before ++ [node]) rest

theorem admitted_append {before nodes rest : List Node} :
    Admitted before (nodes ++ rest) ↔ Admitted before nodes ∧ Admitted (before ++ nodes) rest := by
  induction nodes generalizing before with
  | nil => simp [Admitted]
  | cons node nodes ih => simp [Admitted, ih, and_assoc]

theorem pushAll_eq_ok_iff {nodes held : List Node} {entries : List (Node × Nat)} :
    pushAll nodes entries = .ok held ↔
      Admitted nodes (entries.map Prod.fst) ∧ held = nodes ++ entries.map Prod.fst := by
  induction entries generalizing nodes with
  | nil => simp [pushAll, Admitted, eq_comm]
  | cons entry rest ih =>
    obtain ⟨node, position⟩ := entry
    constructor
    · intro pushed
      obtain ⟨grown, first, pushed⟩ := bind_eq_ok pushed
      obtain ⟨free, rfl⟩ := push_ok first
      obtain ⟨admitted, rfl⟩ := ih.1 pushed
      exact ⟨⟨free, admitted⟩, by simp⟩
    · rintro ⟨⟨free, admitted⟩, rfl⟩
      rw [pushAll, push_free position free]
      exact ih.2 ⟨admitted, by simp⟩

/-! From pushes to a derivation. -/

/-- How far a derivation has come behind the nodes, inside `depth` parentheses. -/
inductive Stage (depth : Nat) (nodes : List Node) : Prop where
  | awaiting (awaiting : Awaiting depth nodes)
  | ended (ended : Ended depth nodes)
  /-- The list of an `IN` clause is due. -/
  | pending {front : List Node} {c : Clause} (awaiting : Awaiting depth front)
      (isList : c.comparator = .inList) (last : nodes = front ++ [.clause c])

def Staged (nodes : List Node) : Prop :=
  ∃ depth, nodes.count .opening = nodes.count .closing + depth ∧ Stage depth nodes

section Growing

variable {depth : Nat} {nodes : List Node} {node : Node}

theorem Awaiting.staged (awaiting : Awaiting depth nodes)
    (total : nodes.count .opening = nodes.count .closing + depth)
    (free : obstacle nodes.getLast? node = none)
    (nested : (nodes ++ [node]).count .closing ≤ (nodes ++ [node]).count .opening) :
    Staged (nodes ++ [node]) := by
  rcases (awaiting.obstacle_iff node).1 free with kind | kind | ⟨kind, rfl⟩
  · cases node with
    | clause c =>
      refine ⟨depth, by simpa using total, ?_⟩
      by_cases isList : c.comparator = .inList
      · exact .pending awaiting isList rfl
      · exact .ended (awaiting.ended (.clause c isList))
    | _ => cases kind
  · cases node with
    | opening => exact ⟨depth + 1, by grind, .awaiting awaiting.opened⟩
    | _ => cases kind
  · -- Only the count keeps a closing parenthesis from coming first.
    cases node with
    | closing => simp at nested
    | _ => cases kind

theorem Ended.staged (ended : Ended depth nodes)
    (total : nodes.count .opening = nodes.count .closing + depth)
    (free : obstacle nodes.getLast? node = none)
    (nested : (nodes ++ [node]).count .closing ≤ (nodes ++ [node]).count .opening) :
    Staged (nodes ++ [node]) := by
  rcases (ended.obstacle_iff node).1 free with kind | kind
  · cases node with
    | connective connective =>
      exact ⟨depth, by simpa using total, .awaiting (ended.connected connective)⟩
    | _ => cases kind
  · cases node with
    | closing =>
      -- The count keeps the parenthesis from closing a group that is not open.
      have deep : depth ≠ 0 := by grind
      obtain ⟨outer, rfl⟩ := Nat.exists_eq_succ_of_ne_zero deep
      exact ⟨outer, by grind, .ended ended.closed⟩
    | _ => cases kind

theorem Staged.snoc (staged : Staged nodes) (free : obstacle nodes.getLast? node = none)
    (nested : (nodes ++ [node]).count .closing ≤ (nodes ++ [node]).count .opening)
    (follows : ∀ front c, nodes = front ++ [.clause c] → c.comparator = .inList →
      ∃ raw items, node = .list raw items) : Staged (nodes ++ [node]) := by
  obtain ⟨depth, total, stage⟩ := staged
  cases stage with
  | awaiting awaiting => exact awaiting.staged total free nested
  | ended ended => exact ended.staged total free nested
  | @pending front c awaiting isList last =>
    obtain ⟨raw, items, rfl⟩ := follows front c last isList
    subst last
    refine ⟨depth, by simpa using total, ?_⟩
    have ended := awaiting.ended (.membership c isList raw items)
    exact .ended (by simpa [Term.nodes] using ended)

end Growing

theorem staged_of_admitted {nodes : List Node} (admitted : Admitted [] nodes)
    (balanced : Balanced nodes) (follow : ListsFollow nodes) {before after : List Node}
    (cut : nodes = before ++ after) : Staged before := by
  -- Nodes are pushed at the end, so the induction takes them off there.
  induction before using List.reverseRecOn generalizing after with
  | nil => exact ⟨0, rfl, .awaiting awaiting_nil⟩
  | append_singleton before node ih =>
    rw [List.append_assoc] at cut
    have free : obstacle before.getLast? node = none := by
      rw [cut, admitted_append] at admitted
      exact admitted.2.1
    apply (ih cut).snoc free
    · apply balanced.nested
      rw [cut, ← List.append_assoc]
      exact List.prefix_append _ _
    · rintro front c rfl isList
      have split : nodes = front ++ .clause c :: ([node] ++ after) := by simpa using cut
      obtain ⟨raw, items, rest, next⟩ := follow _ _ _ split isList
      cases next
      exact ⟨raw, items, rfl⟩

theorem exists_derivation {nodes : List Node} {stop : Nat} (admitted : Admitted [] nodes)
    (closed : close nodes stop = .ok ()) (balanced : Balanced nodes) (follow : ListsFollow nodes) :
    nodes = [] ∨ ∃ chain : Chain, chain.nodes = nodes := by
  obtain ⟨depth, total, stage⟩ :=
    staged_of_admitted admitted balanced follow (List.append_nil nodes).symm
  have top : depth = 0 := by
    have := balanced.total
    omega
  subst top
  cases stage with
  | awaiting awaiting =>
    rcases awaiting.top with empty | ⟨connective, last⟩
    · exact .inl empty
    · exact absurd last (Scanner.close_inv closed connective)
  | ended ended => exact .inr ended.derivation
  | pending awaiting isList last =>
    obtain ⟨_, _, _, next⟩ := follow _ _ _ last isList
    cases next

/-! From a derivation to pushes. -/

/-- What holds of the three kinds of terms and passes on to chains holds of all derivations. -/
theorem Chain.nodes_induction {P : List Node → Prop}
    (clause : ∀ c, c.comparator ≠ .inList → P [.clause c])
    (membership : ∀ c raw items, c.comparator = .inList → P [.clause c, .list raw items])
    (group : ∀ inner, P inner → P (.opening :: inner ++ [.closing]))
    (connect : ∀ front connective last, P front → P last →
      P (front ++ .connective connective :: last)) (chain : Chain) : P chain.nodes := by
  refine @Chain.rec (fun term => P term.nodes) (fun chain => P chain.nodes) clause ?_ ?_ ?_ ?_ chain
  · intro c isList raw items
    exact membership c raw items isList
  · intro inner holds
    exact group inner.nodes holds
  · intro term holds
    exact holds
  · intro front connective last first second
    exact connect _ connective _ first second

def Pushable (nodes : List Node) : Prop :=
  ∀ depth before, Awaiting depth before → Admitted before nodes ∧ Ended depth (before ++ nodes)

theorem Chain.pushable (chain : Chain) : Pushable chain.nodes := by
  apply Chain.nodes_induction
  case clause =>
    intro c plain depth before awaiting
    have free := (awaiting.obstacle_iff (.clause c)).2 (.inl rfl)
    exact ⟨⟨free, trivial⟩, awaiting.ended (.clause c plain)⟩
  case membership =>
    intro c raw items isList depth before awaiting
    have free := (awaiting.obstacle_iff (.clause c)).2 (.inl rfl)
    have listFree : obstacle (before ++ [Node.clause c]).getLast? (.list raw items) = none := by
      simp [obstacle, Node.kind, Node.awaitsList, isList]
    exact ⟨⟨free, listFree, trivial⟩, awaiting.ended (.membership c isList raw items)⟩
  case group =>
    intro inner pushable depth before awaiting
    have free := (awaiting.obstacle_iff .opening).2 (.inr (.inl rfl))
    obtain ⟨admitted, ended⟩ := pushable _ _ awaiting.opened
    have closes := (ended.obstacle_iff .closing).2 (.inr rfl)
    have closed := ended.closed
    rw [List.append_assoc, List.append_assoc] at closed
    exact ⟨⟨free, admitted_append.2 ⟨admitted, closes, trivial⟩⟩, closed⟩
  case connect =>
    intro front connective last first second depth before awaiting
    obtain ⟨admitted, ended⟩ := first _ _ awaiting
    have free := (ended.obstacle_iff (.connective connective)).2 (.inl rfl)
    obtain ⟨admitted', ended'⟩ := second _ _ (ended.connected connective)
    rw [List.append_assoc, List.append_assoc] at ended'
    exact ⟨admitted_append.2 ⟨admitted, free, admitted'⟩, ended'⟩

theorem balanced_of_absent {nodes : List Node} (opening : .opening ∉ nodes) (closing : .closing ∉ nodes) :
    Balanced nodes := by
  constructor
  case nested =>
    intro before isPrefix
    have absent : before.count .closing = 0 :=
      List.count_eq_zero.2 fun member => closing (isPrefix.subset member)
    omega
  case total => rw [List.count_eq_zero.2 opening, List.count_eq_zero.2 closing]

theorem Balanced.append {nodes rest : List Node} (first : Balanced nodes) (second : Balanced rest) :
    Balanced (nodes ++ rest) := by
  constructor
  case nested =>
    rintro before ⟨after, cut⟩
    rcases List.append_eq_append_iff.1 cut with ⟨inner, rfl, _⟩ | ⟨inner, rfl, rfl⟩
    · exact first.nested before (List.prefix_append _ _)
    · have inside := second.nested inner (List.prefix_append _ _)
      have whole := first.total
      simp only [List.count_append]
      omega
  case total => simp only [List.count_append, first.total, second.total]

theorem Balanced.enclosed {inner : List Node} (balanced : Balanced inner) :
    Balanced (.opening :: inner ++ [.closing]) := by
  constructor
  case nested =>
    intro before isPrefix
    rcases List.prefix_concat_iff.1 isPrefix with rfl | isPrefix
    · simp [balanced.total]
    · rcases List.prefix_cons_iff.1 isPrefix with rfl | ⟨rest, rfl, begins⟩
      · simp
      · have inside := balanced.nested rest begins
        grind
  case total => simp [balanced.total]

theorem Chain.balanced (chain : Chain) : Balanced chain.nodes := by
  apply Chain.nodes_induction
  case clause => exact fun c plain => balanced_of_absent (by simp) (by simp)
  case membership => exact fun c raw items isList => balanced_of_absent (by simp) (by simp)
  case group => exact fun inner balanced => balanced.enclosed
  case connect =>
    intro front connective last first second
    have between : Balanced [.connective connective] := balanced_of_absent (by simp) (by simp)
    exact first.append (between.append second)

theorem ListsFollow.append {nodes rest : List Node} (first : ListsFollow nodes)
    (second : ListsFollow rest) : ListsFollow (nodes ++ rest) := by
  intro before c after cut isList
  rcases append_eq_append_cons cut with ⟨inner, rfl, rfl⟩ | ⟨inner, rfl, split⟩
  · obtain ⟨raw, items, behind, rfl⟩ := first before c inner rfl isList
    exact ⟨raw, items, behind ++ rest, rfl⟩
  · exact second inner c after split isList

theorem listsFollow_of_absent {nodes : List Node}
    (absent : ∀ c, .clause c ∈ nodes → c.comparator ≠ .inList) : ListsFollow nodes := by
  rintro before c after rfl isList
  exact absurd isList (absent c (by simp))

theorem Chain.listsFollow (chain : Chain) : ListsFollow chain.nodes := by
  apply Chain.nodes_induction
  case clause =>
    intro c plain
    apply listsFollow_of_absent
    rintro other member
    cases List.mem_singleton.1 member
    exact plain
  case membership =>
    intro c raw items isList before other after cut _
    match before with
    | [] =>
      cases cut
      exact ⟨raw, items, [], rfl⟩
    | [_] => cases cut
    | _ :: _ :: _ => simp at cut
  case group =>
    intro inner follow
    have opens : ListsFollow [.opening] := listsFollow_of_absent (by simp)
    have closes : ListsFollow [.closing] := listsFollow_of_absent (by simp)
    exact (opens.append follow).append closes
  case connect =>
    intro front connective last first second
    have between : ListsFollow [.connective connective] := listsFollow_of_absent (by simp)
    exact first.append (between.append second)

theorem close_derivation {nodes : List Node} (stop : Nat)
    (derived : nodes = [] ∨ ∃ chain : Chain, chain.nodes = nodes) : close nodes stop = .ok () := by
  rcases derived with rfl | ⟨chain, rfl⟩
  · rfl
  · obtain ⟨node, last, ends⟩ := chain.last_node
    rw [close, last]
    cases node with
    | connective => cases ends
    | _ => rfl

/-! Nodes that are refused in between. -/

theorem offer_eq_push (nodes : List Node) (node : Node) (position : Nat) :
    offer nodes node position =
      match push nodes node position with
      | .ok grown => (.ok (), grown)
      | .error e => (.error e, nodes) := by
  rw [push_eq, offer_eq]
  cases obstacle nodes.getLast? node <;> rfl

/-- The sequence that is held after all the nodes have been offered, whatever the answers. -/
def offerAll (nodes : List Node) (entries : List (Node × Nat)) : List Node :=
  entries.foldl (fun held entry => (offer held entry.1 entry.2).2) nodes

theorem exists_kept (nodes : List Node) (entries : List (Node × Nat)) :
    ∃ kept, kept.Sublist entries ∧ pushAll nodes kept = .ok (offerAll nodes entries) := by
  induction entries generalizing nodes with
  | nil => exact ⟨[], .slnil, rfl⟩
  | cons entry rest ih =>
    obtain ⟨node, position⟩ := entry
    cases pushed : push nodes node position with
    | ok grown =>
      obtain ⟨kept, sublist, held⟩ := ih grown
      refine ⟨(node, position) :: kept, sublist.cons_cons _, ?_⟩
      simpa [pushAll, pushed, bind, Except.bind, offerAll, offer_eq_push nodes] using held
    | error e =>
      obtain ⟨kept, sublist, held⟩ := ih nodes
      refine ⟨kept, sublist.cons _, ?_⟩
      simpa [offerAll, offer_eq_push nodes, pushed] using held

/-- A sequence that is pushed node by node without a refusal, that may end, whose parentheses are balanced
and whose `IN` clauses all have their lists is empty or derived from the grammar, and the other way round.
A node that is refused leaves the sequence as it is, so that what is held after any pushes can be pushed
without a refusal too. -/
theorem pushes_exact (entries : List (Node × Nat)) (stop : Nat) :
    (((∃ held, pushAll [] entries = .ok held ∧ close held stop = .ok ()) ∧
        Balanced (entries.map Prod.fst) ∧ ListsFollow (entries.map Prod.fst)) ↔
      entries.map Prod.fst = [] ∨ ∃ chain : Chain, chain.nodes = entries.map Prod.fst) ∧
    (∀ nodes node position e, push nodes node position = .error e →
      offer nodes node position = (.error e, nodes)) ∧
    ∃ kept, kept.Sublist entries ∧ pushAll [] kept = .ok (offerAll [] entries) := by
  refine ⟨⟨?_, ?_⟩, ?_, exists_kept [] entries⟩
  · rintro ⟨⟨held, pushed, closed⟩, balanced, follow⟩
    obtain ⟨admitted, rfl⟩ := pushAll_eq_ok_iff.1 pushed
    exact exists_derivation admitted closed balanced follow
  · intro derived
    have closed := close_derivation stop derived
    rcases derived with empty | ⟨chain, same⟩
    · rw [empty] at closed ⊢
      exact ⟨⟨[], pushAll_eq_ok_iff.2 (by simp [empty, Admitted]), closed⟩,
        balanced_of_absent (by simp) (by simp), listsFollow_of_absent (by simp)⟩
    · rw [← same] at closed ⊢
      have admitted := (chain.pushable 0 [] awaiting_nil).1
      exact ⟨⟨chain.nodes, pushAll_eq_ok_iff.2 (by simpa [← same] using admitted), closed⟩,
        chain.balanced, chain.listsFollow⟩
  · intro nodes node position e refused
    rw [offer_eq_push, refused]

/-- A group with a list, into which a closing parenthesis has been offered too early. -/
theorem pushes_exact_group :
    (push [.opening] .closing 1 = .error ⟨.misplacedNode .closing .opening, 1⟩ ∧
      offer [.opening] .closing 1 = (.error ⟨.misplacedNode .closing .opening, 1⟩, [.opening])) ∧
    Balanced [.opening, .clause ⟨['a'], .inList, ['1']⟩, .list ['1'] ["'1'".toList], .closing] := by
  have refused : push [.opening] .closing 1 = .error ⟨.misplacedNode .closing .opening, 1⟩ := rfl
  obtain ⟨recognised, unchanged, _⟩ := pushes_exact
    [(.opening, 0), (.clause ⟨['a'], .inList, ['1']⟩, 1), (.list ['1'] ["'1'".toList], 4), (.closing, 7)] 8
  have derived : ∃ chain : Chain, chain.nodes =
      [.opening, .clause ⟨['a'], .inList, ['1']⟩, .list ['1'] ["'1'".toList], .closing] :=
    ⟨.single (.group (.single (.membership ⟨['a'], .inList, ['1']⟩ rfl ['1'] ["'1'".toList]))), rfl⟩
  exact ⟨⟨refused, unchanged _ _ _ _ refused⟩, (recognised.2 (.inr derived)).2.1⟩

end FilterQuery.Filter

import ViewCompiler.Program.Loading

/-!
# Programs survive serialization

A program can be handed over in three serialized forms: as one object of its own
kind, as an object of components and a body that names no kind, and as a flat
list of definitions and nodes.  Only the first is read strictly as a whole; the
other two go through the loader of parser output, which has to recognize every
serialized part in them.

All three forms have one outcome.  A program in which every name is non-empty
comes back as it was, literal for literal and expression for expression, and any
other is refused for its structure.  Equality here is that of the data itself,
so the statement holds of every number, not-a-number included.
-/

namespace ViewCompiler

theorem Expression.deserialize_serialize (expression : Expression) :
    Expression.deserialize expression.serialize = some expression := by
  obtain ⟨kind, text⟩ := expression
  cases kind <;> rfl

theorem PropValue.deserialize_serialize (value : PropValue) :
    PropValue.deserialize value.serialize = some value := by
  cases value with
  | literal value => cases value <;> rfl
  | expression e =>
      have hread := Expression.deserialize_serialize e
      have hliteral : Literal.deserialize e.serialize = none := rfl
      rw [PropValue.serialize, PropValue.deserialize, hliteral, hread]
      rfl

/-- Reading back written items gives the items, if every one of them may be read. -/
theorem mapM_map_serialize {α : Type} {read : Json → Option α}
    {write : α → Json} {valid : α → Bool}
    (hread : ∀ item, read (write item) = if valid item then some item else none)
    (items : List α) :
    (items.map write).mapM read = if items.all valid then some items else none := by
  induction items with
  | nil => rfl
  | cons item rest ih =>
      rw [List.map_cons, List.mapM_cons, hread, ih, List.all_cons]
      cases valid item <;> cases rest.all valid <;> rfl

theorem Props.deserialize_serialize (props : Props) :
    Props.deserialize (some (.object (Entries.mapValues PropValue.serialize props))) =
      some props := by
  rw [Props.deserialize]
  induction props with
  | nil => rfl
  | cons entry rest ih =>
      obtain ⟨key, value⟩ := entry
      have hvalue := PropValue.deserialize_serialize value
      simp_all [Entries.mapValues]

namespace Node

/-- A node whose own name, the tag of an element or the item of a loop, is not empty. -/
def isNamed : Node → Bool
  | element tag _ _ => !tag.isEmpty
  | conditional _ _ => true
  | loop item _ _ => !item.isEmpty

mutual

theorem deserialize_serialize (node : Node) :
    deserialize node.serialize =
      if node.walk.all isNamed then some node else none := by
  cases node with
  | element tag props children =>
      have hunfold :
          deserialize (element tag props children).serialize =
            (deserializeAll (serializeAll children)).bind fun nodes =>
              (Json.nonEmptyText? (some (.text tag))).bind fun name =>
                (Props.deserialize
                  (some (.object (Entries.mapValues PropValue.serialize props)))).bind
                    fun values => some (element name values nodes) := rfl
      have hnamed :
          (element tag props children).walk.all isNamed =
            (!tag.isEmpty && (walkAll children).all isNamed) := rfl
      rw [hunfold, hnamed, deserializeAll_serializeAll children,
        Props.deserialize_serialize, Json.nonEmptyText?]
      cases (walkAll children).all isNamed <;> cases tag.isEmpty <;> rfl
  | conditional condition children =>
      have hunfold :
          deserialize (conditional condition children).serialize =
            (deserializeAll (serializeAll children)).bind fun nodes =>
              (Expression.deserialize condition.serialize).bind
                fun condition => some (conditional condition nodes) := rfl
      have hnamed :
          (conditional condition children).walk.all isNamed =
            (walkAll children).all isNamed := rfl
      rw [hunfold, hnamed, deserializeAll_serializeAll children,
        Expression.deserialize_serialize]
      cases (walkAll children).all isNamed <;> rfl
  | loop item source children =>
      have hunfold :
          deserialize (loop item source children).serialize =
            (deserializeAll (serializeAll children)).bind fun nodes =>
              (Json.nonEmptyText? (some (.text item))).bind fun name =>
                (Expression.deserialize source.serialize).bind
                  fun source => some (loop name source nodes) := rfl
      have hnamed :
          (loop item source children).walk.all isNamed =
            (!item.isEmpty && (walkAll children).all isNamed) := rfl
      rw [hunfold, hnamed, deserializeAll_serializeAll children,
        Expression.deserialize_serialize, Json.nonEmptyText?]
      cases (walkAll children).all isNamed <;> cases item.isEmpty <;> rfl

theorem deserializeAll_serializeAll (nodes : List Node) :
    deserializeAll (serializeAll nodes) =
      if (walkAll nodes).all isNamed then some nodes else none := by
  cases nodes with
  | nil => rfl
  | cons node rest =>
      have hnode := deserialize_serialize node
      have hrest := deserializeAll_serializeAll rest
      rw [serializeAll, deserializeAll, walkAll, List.all_append, hnode, hrest]
      cases node.walk.all isNamed <;> cases (walkAll rest).all isNamed <;> rfl

end

def isWellNamed (node : Node) : Bool :=
  node.walk.all isNamed

theorem all_walkAll (nodes : List Node) :
    (walkAll nodes).all isNamed = nodes.all isWellNamed := by
  induction nodes with
  | nil => rfl
  | cons node rest ih =>
      rw [walkAll, List.all_append, ih, List.all_cons, isWellNamed]

end Node

/-- The first item that is not valid, as it is written; null if there is none. -/
def Json.firstInvalid {α : Type} (valid : α → Bool) (write : α → Json) :
    List α → Json
  | [] => .null
  | item :: rest =>
    if valid item then firstInvalid valid write rest else write item

/-- A parameter with a name that is not empty. -/
def Parameter.isNamed (parameter : Parameter) : Bool :=
  !parameter.name.isEmpty

theorem Parameter.deserialize_serialize (parameter : Parameter) :
    Parameter.deserialize parameter.serialize =
      if parameter.isNamed then some parameter else none := by
  obtain ⟨name, default⟩ := parameter
  unfold Parameter.isNamed
  cases default with
  | none =>
      have hunfold :
          Parameter.deserialize (Parameter.serialize ⟨name, none⟩) =
            (Json.nonEmptyText? (some (.text name))).bind fun name =>
              some { name } := rfl
      rw [hunfold, Json.nonEmptyText?]
      cases name.isEmpty <;> rfl
  | some value =>
      have hunfold :
          Parameter.deserialize (Parameter.serialize ⟨name, some value⟩) =
            (Json.nonEmptyText? (some (.text name))).bind fun name =>
              (PropValue.deserialize value.serialize).bind fun value =>
                some { name, default := some value } := by
        -- Null stands for no default, but no value is written as null.
        cases value with
        | literal value => cases value <;> rfl
        | expression e => rfl
      rw [hunfold, Json.nonEmptyText?, PropValue.deserialize_serialize]
      cases name.isEmpty <;> rfl

namespace Definition

/-- A definition in which every name is non-empty: its own, those of its
parameters, and those of the nodes in its body. -/
def isWellNamed (definition : Definition) : Bool :=
  !definition.name.isEmpty && definition.params.all Parameter.isNamed &&
    (Node.walkAll definition.body).all Node.isNamed

theorem deserialize_serialize (definition : Definition) :
    deserialize definition.serialize =
      if definition.isWellNamed then some definition else none := by
  obtain ⟨name, params, body⟩ := definition
  have hunfold :
      deserialize (serialize ⟨name, params, body⟩) =
        (Json.nonEmptyText? (some (.text name))).bind fun name =>
          ((params.map Parameter.serialize).mapM Parameter.deserialize).bind
            fun params =>
              (Node.deserializeAll (Node.serializeAll body)).bind fun body =>
                some ⟨name, params, body⟩ := rfl
  rw [hunfold, Json.nonEmptyText?, Node.deserializeAll_serializeAll,
    mapM_map_serialize Parameter.deserialize_serialize, isWellNamed]
  cases name.isEmpty <;> cases params.all Parameter.isNamed <;>
    cases (Node.walkAll body).all Node.isNamed <;> rfl

end Definition

namespace Program

/-- A program in which every definition, parameter, element and loop item has a
non-empty name. -/
def isWellNamed (program : Program) : Bool :=
  program.definitions.all Definition.isWellNamed &&
    (Node.walkAll program.body).all Node.isNamed

/-- A program as an object of components and a body, with no kind of its own. -/
def serializeParts (program : Program) : Json :=
  .object
    [("components", .array (program.definitions.map Definition.serialize)),
      ("body", .array (Node.serializeAll program.body))]

/-- A program as one flat list, the definitions before the nodes of the body. -/
def serializeItems (program : Program) : Json :=
  .array (program.definitions.map Definition.serialize ++ Node.serializeAll program.body)

/-- The first definition, or else the first node of the body, in which a name is
empty, as it is written; null if there is none. -/
def misnamedPart (program : Program) : Json :=
  if program.definitions.all Definition.isWellNamed then
    Json.firstInvalid Node.isWellNamed Node.serialize program.body
  else
    Json.firstInvalid Definition.isWellNamed Definition.serialize
      program.definitions

end Program

namespace Load

variable {α β γ : Type}

/-- A value that is loaded if it is valid, and refused for its structure as it is
written if not. -/
def accept (valid : Bool) (written : Json) (value : α) : Load α :=
  if valid then .ok value else .error (.invalidStructure written)

theorem strict_of_ite {read : Json → Option α} {valid : Bool} {written : Json}
    {value : α} (hread : read written = if valid then some value else none) :
    strict read written = accept valid written value := by
  rw [strict, hread]
  cases valid <;> rfl

theorem accept_bind_accept (first second : Bool) (written other : Json) (a : α)
    (b : β) (combine : α → β → γ) :
    (accept first written a >>= fun a =>
        accept second other b >>= fun b => pure (combine a b)) =
      accept (first && second) (if first then other else written)
        (combine a b) := by
  cases first <;> cases second <;> rfl

/-- Loading written items one after the other stops at the first invalid one. -/
theorem accept_cons (valid : α → Bool) (write : α → Json) (first : α)
    (rest : List α) :
    (accept (valid first) (write first) first >>= fun first =>
        accept (rest.all valid) (Json.firstInvalid valid write rest) rest >>=
          fun rest => pure (first :: rest)) =
      accept ((first :: rest).all valid)
        (Json.firstInvalid valid write (first :: rest)) (first :: rest) := by
  rw [accept_bind_accept, List.all_cons, Json.firstInvalid]

/-! ### Serialized parts inside parser output -/

theorem isDefinition_definition (written : Definition) :
    isDefinition written.serialize = .ok true := rfl

theorem isDefinition_node (written : Node) :
    isDefinition written.serialize = .ok false := by
  cases written <;> rfl

theorem definition_serialize (written : Definition) :
    definition written.serialize =
      accept written.isWellNamed written.serialize written :=
  strict_of_ite (Definition.deserialize_serialize written)

theorem node_serialize (written : Node) :
    node written.serialize =
      accept written.isWellNamed written.serialize written := by
  have hstrict :
      node written.serialize = strict Node.deserialize written.serialize := by
    cases written <;> rfl
  rw [hstrict]
  exact strict_of_ite (Node.deserialize_serialize written)

theorem mapM_definition_serialize (written : List Definition) :
    (written.map Definition.serialize).mapM definition =
      accept (written.all Definition.isWellNamed)
        (Json.firstInvalid Definition.isWellNamed Definition.serialize written)
        written := by
  induction written with
  | nil => rfl
  | cons first rest ih =>
      rw [List.map_cons, List.mapM_cons, definition_serialize, ih]
      exact accept_cons _ _ first rest

theorem nodes_serializeAll (written : List Node) :
    nodes (Node.serializeAll written) =
      accept (written.all Node.isWellNamed)
        (Json.firstInvalid Node.isWellNamed Node.serialize written)
        written := by
  induction written with
  | nil => rfl
  | cons first rest ih =>
      rw [Node.serializeAll, nodes, node_serialize, ih]
      exact accept_cons _ _ first rest

private theorem definitionItems_serializeAll (written : List Node) :
    definitionItems (Node.serializeAll written) = .ok [] := by
  induction written with
  | nil => rfl
  | cons first rest ih =>
      rw [Node.serializeAll, definitionItems, isDefinition_node]
      exact ih

private theorem definitionItems_append (written : List Definition)
    (body : List Node) :
    definitionItems (written.map Definition.serialize ++ Node.serializeAll body) =
      accept (written.all Definition.isWellNamed)
        (Json.firstInvalid Definition.isWellNamed Definition.serialize written)
        written := by
  induction written with
  | nil => exact definitionItems_serializeAll body
  | cons first rest ih =>
      rw [List.map_cons, List.cons_append, definitionItems,
        isDefinition_definition, definition_serialize, ih]
      exact accept_cons _ _ first rest

private theorem nodeItems_serializeAll (written : List Node) :
    nodeItems (Node.serializeAll written) = nodes (Node.serializeAll written) := by
  induction written with
  | nil => rfl
  | cons first rest ih =>
      rw [Node.serializeAll, nodeItems, isDefinition_node, ih, nodes]
      rfl

private theorem nodeItems_append (written : List Definition)
    (body : List Node) :
    nodeItems (written.map Definition.serialize ++ Node.serializeAll body) =
      accept (body.all Node.isWellNamed)
        (Json.firstInvalid Node.isWellNamed Node.serialize body) body := by
  induction written with
  | nil =>
      rw [← nodes_serializeAll]
      exact nodeItems_serializeAll body
  | cons first rest ih =>
      rw [List.map_cons, List.cons_append, nodeItems, isDefinition_definition]
      exact ih

theorem items_serialize (program : Program) :
    items (program.definitions.map Definition.serialize ++
        Node.serializeAll program.body) =
      accept program.isWellNamed program.misnamedPart program := by
  rw [items, definitionItems_append, nodeItems_append,
    Program.isWellNamed, Node.all_walkAll]
  exact accept_bind_accept _ _ _ _ program.definitions program.body Program.mk

theorem iterate_array (list : List Json) :
    iterate (.array list) = .ok list := by
  cases list <;> rfl

theorem parts_serialize (program : Program) :
    parts
        [("components", .array (program.definitions.map Definition.serialize)),
          ("body", .array (Node.serializeAll program.body))] =
      accept program.isWellNamed program.misnamedPart program := by
  have hunfold :
      parts
          [("components", .array (program.definitions.map Definition.serialize)),
            ("body", .array (Node.serializeAll program.body))] =
        (do
          let list ← iterate (.array (program.definitions.map Definition.serialize))
          let definitions ← list.mapM definition
          let body ← nodes (Node.serializeAll program.body)
          return { definitions, body }) := rfl
  rw [hunfold, iterate_array, nodes_serializeAll]
  change
    ((program.definitions.map Definition.serialize).mapM definition >>=
      fun definitions =>
        accept (program.body.all Node.isWellNamed) _ program.body >>=
          fun body => pure (Program.mk definitions body)) = _
  rw [mapM_definition_serialize, Program.isWellNamed, Node.all_walkAll]
  exact accept_bind_accept _ _ _ _ program.definitions program.body Program.mk

end Load

namespace Program

theorem deserialize_serialize (program : Program) :
    deserialize program.serialize =
      if program.isWellNamed then some program else none := by
  obtain ⟨definitions, body⟩ := program
  have hunfold :
      deserialize (serialize ⟨definitions, body⟩) =
        ((definitions.map Definition.serialize).mapM Definition.deserialize).bind
          fun definitions =>
            (Node.deserializeAll (Node.serializeAll body)).bind fun body =>
              some ⟨definitions, body⟩ := rfl
  rw [hunfold, Node.deserializeAll_serializeAll,
    mapM_map_serialize Definition.deserialize_serialize, isWellNamed]
  cases definitions.all Definition.isWellNamed <;>
    cases (Node.walkAll body).all Node.isNamed <;> rfl

/-! ### The three forms -/

section Forms

variable {data : Json}

theorem load_of_serialized {found : Json}
    (hform : Load.form data = .ok (.serialized found)) :
    load data = Load.strict deserialize found := by
  unfold load loadLogged
  rw [hform]
  change ((Load.strict deserialize found >>= fun program => _).map Prod.fst) = _
  cases Load.strict deserialize found <;> rfl

theorem load_of_parts {entries : List (String × Json)}
    (hform : Load.form data = .ok (.parts entries)) :
    load data = Load.parts entries := by
  unfold load loadLogged
  rw [hform]
  change ((Load.parts entries >>= fun program => _).map Prod.fst) = _
  cases Load.parts entries <;> rfl

theorem load_of_items {list : List Json}
    (hform : Load.form data = .ok (.items list)) :
    load data = Load.items list := by
  unfold load loadLogged
  rw [hform]
  change ((Load.items list >>= fun program => _).map Prod.fst) = _
  cases Load.items list <;> rfl

end Forms

/-- The three serialized forms of a program load alike.  A program in which every
name is non-empty comes back as itself, so every literal keeps its type, every
expression its kind and text, and every definition and node its place.  Any other
program is refused, in every form, for its structure: as a whole in the first
form, and else for its first part with an empty name. -/
theorem serialized_forms_load_back (program : Program) :
    let outcome (refused : Json) : Load Program :=
      if program.isWellNamed then .ok program
      else .error (.invalidStructure refused)
    load program.serialize = outcome program.serialize ∧
      load program.serializeParts = outcome program.misnamedPart ∧
      load program.serializeItems = outcome program.misnamedPart := by
  refine ⟨?_, ?_, ?_⟩
  · rw [load_of_serialized rfl]
    exact Load.strict_of_ite (deserialize_serialize program)
  · rw [load_of_parts rfl, Load.parts_serialize]
    rfl
  · rw [load_of_items rfl, Load.items_serialize]
    rfl

end Program

end ViewCompiler

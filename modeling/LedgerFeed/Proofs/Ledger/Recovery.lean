import LedgerFeed.Proofs.Ledger.Unfolding

namespace LedgerFeed

/-! ## Reading trees -/

def Leaf.ofJson? : ParameterKind → Json → Option Leaf
  | .boolean, .bool b => some (.boolean b)
  | .integer, .string s => s.chars?.map fun chars => .integer (readInt chars)
  | .string, .string s => some (.string s)
  | .byteArray, .string s => (s.chars?.bind (readHex? isAsciiBlank)).map (.octets .byteArray)
  | .publicKey, .string s => (s.chars?.bind (readHex? isAsciiBlank)).map (.octets .publicKey)
  | .signature, .string s => (s.chars?.bind (readHex? isAsciiBlank)).map (.octets .signature)
  | .hash160, .string s => (hashDigits s).chars?.map (.hash .hash160)
  | .hash256, .string s => (hashDigits s).chars?.map (.hash .hash256)
  | _, _ => none

mutual

def Parameter.ofJson? : Json → Option Parameter
  | .object [(_, .string name)] =>
      if name = .ofString ParameterKind.void.name then some .void else none
  | .object [(_, .string name), (_, value)] =>
      match ParameterKind.ofName? name with
      | some .array =>
          match value with
          | .array items => (ofJsonItems? items).map .array
          | _ => none
      | some .map =>
          match value with
          | .array entries => (ofJsonEntries? entries).map .map
          | _ => none
      | some kind => (Leaf.ofJson? kind value).map .leaf
      | none => none
  | _ => none

def Parameter.ofJsonItems? : List Json → Option (List Parameter)
  | [] => some []
  | item :: rest => do
      let first ← ofJson? item
      let others ← ofJsonItems? rest
      pure (first :: others)

def Parameter.ofJsonEntries? : List Json → Option (List (Parameter × Parameter))
  | [] => some []
  | .object [(_, key), (_, item)] :: rest => do
      let firstKey ← ofJson? key
      let firstItem ← ofJson? item
      let others ← ofJsonEntries? rest
      pure ((firstKey, firstItem) :: others)
  | _ => none

end

theorem ParameterKind.ofName?_name (kind : ParameterKind) : ofName? kind.name = some kind := by
  cases kind <;> decide

theorem Leaf.ofJson?_json (leaf : Leaf) : Leaf.ofJson? leaf.kind leaf.json = some leaf := by
  cases leaf with
  | boolean | string => rfl
  | integer n =>
      rw [Leaf.json, ← ofChars_intDigits]
      simp only [Leaf.kind, Leaf.ofJson?, Text.chars?_ofChars, Option.map_some, readInt_intDigits]
  | octets kind octets =>
      cases kind <;>
        simp only [Leaf.kind, OctetsKind.kind, Leaf.json, Leaf.ofJson?, Text.chars?_ofChars,
          Option.bind_some, readHex?_writeHex, Option.map_some]
  | hash kind digits =>
      cases kind <;>
        simp only [Leaf.kind, HashKind.kind, Leaf.json, Leaf.ofJson?, Text.ofChars_cons,
          hashDigits, Text.chars?_ofChars, Option.map_some]

mutual

theorem Parameter.ofJson?_json : ∀ tree : Parameter, Parameter.ofJson? tree.json = some tree
  | .void => by simp [Parameter.json, Parameter.ofJson?]
  | .leaf meaning => by
      have reads := meaning.ofJson?_json
      obtain ⟨-, notArray, notMap⟩ := meaning.kind_ne
      rw [Parameter.json, tagged, Parameter.ofJson?.eq_def]
      dsimp only
      rw [ParameterKind.ofName?_name]
      generalize meaning.kind = kind at reads notArray notMap
      cases kind
      case array => exact absurd rfl notArray
      case map => exact absurd rfl notMap
      all_goals exact congrArg (Option.map Parameter.leaf) reads
  | .array items => by
      simp [Parameter.json, tagged, Parameter.ofJson?, ParameterKind.ofName?_name,
        ofJsonItems?_jsonItems items]
  | .map entries => by
      simp [Parameter.json, tagged, Parameter.ofJson?, ParameterKind.ofName?_name,
        ofJsonEntries?_jsonEntries entries]

theorem Parameter.ofJsonItems?_jsonItems : ∀ items : List Parameter,
    Parameter.ofJsonItems? (Parameter.jsonItems items) = some items
  | [] => rfl
  | item :: rest => by
      simp [Parameter.jsonItems, Parameter.ofJsonItems?, Parameter.ofJson?_json item,
        ofJsonItems?_jsonItems rest]

theorem Parameter.ofJsonEntries?_jsonEntries : ∀ entries : List (Parameter × Parameter),
    Parameter.ofJsonEntries? (Parameter.jsonEntries entries) = some entries
  | [] => rfl
  | (key, item) :: rest => by
      simp [Parameter.jsonEntries, Parameter.ofJsonEntries?, Parameter.ofJson?_json key,
        Parameter.ofJson?_json item, ofJsonEntries?_jsonEntries rest]

end

/-! ## What values stand for -/

namespace Stands

variable {heap : Heap} {slot : Slot} {tree other : Json}

theorem names_zip {entries : List (Slot × Slot)} {members : List (Text × Json)}
    (names : entries.map (fun entry => entry.1.text?) = members.map fun member => some member.1) :
    entries.length = members.length ∧
      ∀ part ∈ entries.zip members, part.1.1.text? = some part.2.1 := by
  have alike : List.Forall₂ (fun entry member => entry.1.text? = some member.1) entries members := by
    rw [← List.forall₂_eq_eq_eq, List.forall₂_map_left_iff, List.forall₂_map_right_iff] at names
    exact names
  obtain ⟨size, each⟩ := List.forall₂_iff_zip.mp alike
  exact ⟨size, fun _ listed => each listed⟩

theorem unique (h : Stands heap slot tree) (h' : Stands heap slot other) : tree = other := by
  induction h generalizing other with
  | null | bool | int | state | text | channel =>
      cases h'
      rfl
  | list cell size parts ih =>
      cases h' with
      | list otherCell otherSize otherParts =>
          rw [cell] at otherCell
          cases otherCell
          rw [parts_unique (Stands heap) size otherSize
            (fun part listed _ stands => ih part listed stands) otherParts]
      | dict otherCell =>
          rw [cell] at otherCell
          cases otherCell
  | @dict _ entries members cell names parts ih =>
      cases h' with
      | list otherCell =>
          rw [cell] at otherCell
          cases otherCell
      | dict otherCell otherNames otherParts =>
          rw [cell] at otherCell
          cases otherCell
          obtain ⟨size, named⟩ := names_zip names
          obtain ⟨otherSize, otherNamed⟩ := names_zip otherNames
          have each : ∀ part ∈ entries.zip members, ∀ member, Entry heap part.1 member →
              part.2 = member := by
            intro part listed member ⟨name, stands⟩
            rw [named part listed] at name
            exact Prod.ext (Option.some.inj name) (ih part listed stands)
          rw [parts_unique (Entry heap) size otherSize each
            fun part listed => ⟨otherNamed part listed, otherParts part listed⟩]

end Stands

/-! ## Equal renderings -/

theorem Rendered.matches_iff {first second : Rendered} :
    first.toValue.Matches second.toValue ↔ first.json = second.json := by
  have stands (rendered : Rendered) : rendered.toValue.Stands rendered.json :=
    (rendered.place_stands Heap.empty).2
  constructor
  · rintro ⟨tree, standsFirst, standsSecond⟩
    rw [(stands first).unique standsFirst, (stands second).unique standsSecond]
  · intro same
    exact ⟨_, stands first, same ▸ stands second⟩

theorem Rendered.compact_iff {first second : Rendered} :
    first.json.compact = second.json.compact ↔ first.json = second.json := by
  refine ⟨fun same => ?_, congrArg Json.compact⟩
  have reads := Json.read_compact first.json_faithful
  rw [same, Json.read_compact second.json_faithful] at reads
  exact (Except.ok.inj reads).symm

theorem Parameter.json_injective : Function.Injective Parameter.json := by
  intro left right same
  have reads := left.ofJson?_json
  rw [same, right.ofJson?_json] at reads
  exact (Option.some.inj reads).symm

/-! ## Meanings -/

def Value.Means (value : Value) (tree : Parameter) : Prop := Denotes value.heap value.slot tree

/-- Two parameters of one meaning, whichever objects hold it. -/
def Value.Alike (left right : Value) : Prop := ∃ tree, left.Means tree ∧ right.Means tree

theorem render_json_iff {left right : Value} {first second : Rendered}
    (renderedFirst : left.render = .ok first) (renderedSecond : right.render = .ok second) :
    first.json = second.json ↔ left.Alike right := by
  obtain ⟨leftTree, leftMeans, leftJson⟩ := renderParameter_denotes renderedFirst
  obtain ⟨rightTree, rightMeans, rightJson⟩ := renderParameter_denotes renderedSecond
  rw [leftJson, rightJson]
  constructor
  · intro same
    rw [Parameter.json_injective same] at leftMeans
    exact ⟨rightTree, leftMeans, rightMeans⟩
  · rintro ⟨tree, leftTo, rightTo⟩
    rw [leftMeans.unique leftTo, rightMeans.unique rightTo]

/-! ## Notifications -/

def readCall? (payload : Text) : Option (List Parameter) :=
  match Json.read payload with
  | .ok (.object [_, _, (_, .array items)]) => Parameter.ofJsonItems? items
  | _ => none

theorem encodeNotification_recovers {contract txid state : Value} {message : NotificationMessage}
    (h : encodeNotification contract txid state = .ok message) :
    ∃ payload items parts, message.text = .ok payload ∧ state.items = .ok items ∧
      List.Forall₂ Value.Means items parts ∧ readCall? payload = some parts := by
  obtain ⟨items, call, hitems, rendered, hcall⟩ := encodeNotification_rendered h
  obtain ⟨contract, txid, _⟩ := message
  cases hcall
  obtain ⟨parts, means, same⟩ := renderItems_denotes (mapM_eq_ok.mp rendered)
    fun item _ => renderParameter_denotes
  refine ⟨(notificationTree contract txid call).compact, items, parts, rfl, hitems, means, ?_⟩
  rw [readCall?, Json.read_compact (notificationTree_faithful contract txid call)]
  dsimp only [notificationTree]
  rw [same, Parameter.ofJsonItems?_jsonItems]

/-- Two rendered parameters are equal exactly if the parameters have one meaning, and so are the
texts that they are sent as. The text of a notification gives back what its parameters mean. -/
theorem rendering_recovers :
    (∀ left right first second, Value.render left = .ok first → Value.render right = .ok second →
      (first.toValue.Matches second.toValue ↔ left.Alike right) ∧
      (first.json.compact = second.json.compact ↔ left.Alike right)) ∧
    ∀ contract txid state message, encodeNotification contract txid state = .ok message →
      ∃ payload items parts, message.text = .ok payload ∧ state.items = .ok items ∧
        List.Forall₂ Value.Means items parts ∧ readCall? payload = some parts := by
  refine ⟨fun left right first second renderedFirst renderedSecond => ?_,
    fun _ _ _ _ => encodeNotification_recovers⟩
  have same := render_json_iff renderedFirst renderedSecond
  exact ⟨Rendered.matches_iff.trans same, Rendered.compact_iff.trans same⟩

def octetArray (cell : List Slot → Cell) (kind : ParameterKind) (buffer : Buffer) : Value :=
  ⟨#[cell [.object 1], .parameter (.text kind.name) (.buffer buffer [171]),
    .parameter (.text "Array") (.object 0)], .object 2⟩

def octetArrayRendered (kind : ParameterKind) : Rendered :=
  .array [.scalar kind (.word (.text "ab"))]

theorem rendering_recovers_octetArray :
    (octetArray .list .byteArray .bytes).Alike (octetArray .tuple .byteArray .bytearray) ∧
      ¬ (octetArray .list .byteArray .bytes).Alike (octetArray .list .publicKey .bytes) ∧
      ∃ message, encodeNotification (.text "0xCC") (.text "0xT1") ⟨confirmedCommit, .object 3⟩ =
          .ok message ∧
        ∃ payload parts, message.text = .ok payload ∧ readCall? payload = some parts := by
  have listed : (octetArray .list .byteArray .bytes).render = .ok (octetArrayRendered .byteArray) := by
    cbv
  have tupled : (octetArray .tuple .byteArray .bytearray).render =
      .ok (octetArrayRendered .byteArray) := by
    cbv
  have key : (octetArray .list .publicKey .bytes).render = .ok (octetArrayRendered .publicKey) := by
    cbv
  refine ⟨(rendering_recovers.1 _ _ _ _ listed tupled).2.mp rfl, fun alike => ?_,
    _, encodeNotification_confirmedCommit, ?_⟩
  · have same := (rendering_recovers.1 _ _ _ _ listed key).2.mpr alike
    exact absurd same (by decide)
  · obtain ⟨payload, _, parts, text, _, _, recovered⟩ :=
      rendering_recovers.2 _ _ _ _ encodeNotification_confirmedCommit
    exact ⟨payload, parts, text, recovered⟩

end LedgerFeed

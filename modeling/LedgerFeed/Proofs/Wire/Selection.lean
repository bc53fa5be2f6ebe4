import LedgerFeed.Proofs.Characters.Cut
import LedgerFeed.Proofs.Characters.Letters
import LedgerFeed.Proofs.Except
import LedgerFeed.Wire.Filter

namespace LedgerFeed

/-- Between blanks, the part has the name of the channel when its characters are read in this way. -/
def Names (form : Char → Char) (part : Text) (channel : Channel) : Prop :=
  ∃ before name after, part = before ++ .ofChars name ++ after ∧ Blank before ∧ Blank after ∧
    name.map form = channel.name.toList

def Legible (form : Char → Char) (text : Text) : Prop :=
  ∀ part, IsPart (.char ',') text part → Blank part ∨ ∃ channel, Names form part channel

def Mentions (form : Char → Char) (text : Text) (channel : Channel) : Prop :=
  ∃ part, IsPart (.char ',') text part ∧ Names form part channel

variable {text part : Text} {channel : Channel} {fault : Fault}

/-! ## One name -/

namespace Channel

theorem ofName?_eq_some {name : Text} : ofName? name = some channel ↔ name = channel.name := by
  constructor
  · intro found
    exact (of_decide_eq_true (List.find?_some found :)).symm
  · rintro rfl
    cases channel <;> decide

theorem name_letters : channel.name.toList ≠ [] ∧
    ∀ c ∈ channel.name.toList, c.toNat < 128 ∧ isBlank c = false := by
  refine ⟨by cases channel <;> decide, fun c listed => ?_⟩
  have checked : channel.name.toList.all (fun c => c.toNat < 128 && !isBlank c) = true := by
    cases channel <;> decide
  simpa using List.all_eq_true.mp checked c listed

theorem spelled_solid {name : List Char} (h : name.map asciiForm = channel.name.toList) :
    Text.ofChars name ≠ [] ∧ ∀ letter ∈ Text.ofChars name, letter.isIn isBlank = false := by
  constructor
  · intro empty
    rw [List.map_eq_nil_iff.mp empty] at h
    exact name_letters.1 h.symm
  · intro letter spelled
    obtain ⟨c, listed, rfl⟩ := List.mem_map.mp spelled
    refine Bool.eq_false_iff.mpr fun blank => ?_
    have letter : c ∈ channel.name.toList := by
      rw [← h, ← asciiForm_of_isBlank blank]
      exact List.mem_map_of_mem listed
    exact Bool.eq_false_iff.mp (name_letters.2 c letter).2 blank

theorem parse?_eq_some : parse? part = some channel ↔ Names asciiForm part channel := by
  have ascii : ∀ c ∈ channel.name.toList, c.toNat < 128 := fun c hc => (name_letters.2 c hc).1
  rw [parse?, ofName?_eq_some, Text.ofString, lowercase_eq_iff ascii]
  constructor
  · rintro ⟨name, trimmed, spelled⟩
    obtain ⟨before, after, padded, inFront, behind⟩ := exists_padding part
    rw [trimmed] at padded
    exact ⟨before, name, after, padded, inFront, behind, spelled⟩
  · rintro ⟨before, name, after, rfl, inFront, behind, spelled⟩
    obtain ⟨nonempty, solid⟩ := spelled_solid spelled
    exact ⟨name, trim_padded inFront behind solid nonempty, spelled⟩

end Channel

theorem Names.not_blank (h : Names asciiForm part channel) : ¬ Blank part := by
  obtain ⟨before, name, after, rfl, -, -, spelled⟩ := h
  obtain ⟨nonempty, solid⟩ := Channel.spelled_solid spelled
  obtain ⟨c, listed⟩ := List.exists_mem_of_ne_nil _ nonempty
  exact fun blank => Bool.eq_false_iff.mp (solid c listed) (blank c (by simp [listed]))

theorem namedChannel_eq_ok : namedChannel part = .ok channel ↔ Names asciiForm part channel := by
  rw [← Channel.parse?_eq_some]
  unfold namedChannel
  split <;> simp_all

theorem namedChannel_eq_error (h : namedChannel part = .error fault) :
    fault = .unknownChannel (String.ofList (quoteText part)) ∧
      ∀ channel, ¬ Names asciiForm part channel := by
  constructor
  · unfold namedChannel at h
    split at h <;> cases h
    rfl
  · intro channel named
    rw [namedChannel_eq_ok.mpr named] at h
    cases h

/-! ## All names -/

theorem mem_filterParts : part ∈ filterParts text ↔ IsPart (.char ',') text part ∧ ¬ Blank part := by
  rw [filterParts, List.mem_filter, mem_splitAt, ← trim_eq_nil]
  simp

theorem Legible.blank_iff (h : Legible asciiForm text) :
    (∀ part, IsPart (.char ',') text part → Blank part) ↔ ∀ channel, ¬ Mentions asciiForm text channel := by
  constructor
  · rintro blank channel ⟨part, among, names⟩
    exact names.not_blank (blank part among)
  · intro silent part among
    refine (h part among).resolve_right ?_
    rintro ⟨channel, names⟩
    exact silent channel ⟨part, among, names⟩

theorem mem_selected {channels : List Channel} :
    channel ∈ selected channels ↔ channel ∈ channels ∨ channels = [] := by
  unfold selected
  split
  · cases channel <;> simp_all [Channel.all]
  · cases channel <;> simp_all [Channel.sorted, Channel.all]

theorem selected_eq_sorted (channels : List Channel) :
    selected channels = Channel.sorted (selected channels) := by
  unfold selected
  split
  · rfl
  · refine List.filter_congr fun channel listed => ?_
    rw [Bool.eq_iff_iff, List.contains_iff_mem, List.contains_iff_mem, Channel.sorted,
      List.mem_filter, List.contains_iff_mem]
    exact (and_iff_right listed).symm

theorem parseFilter_accepts :
    (∃ channels, parseFilter text = .ok channels) ↔ Legible asciiForm text := by
  constructor
  · rintro ⟨channels, accepted⟩ part among
    obtain ⟨named, mapped, -⟩ := map_eq_ok.mp accepted
    refine or_iff_not_imp_left.mpr fun solid => ?_
    obtain ⟨channel, -, names⟩ := mapM_ok_of_mem mapped (mem_filterParts.mpr ⟨among, solid⟩)
    exact ⟨channel, namedChannel_eq_ok.mp names⟩
  · intro legible
    have each : ∀ part ∈ filterParts text, ∃ channel, namedChannel part = .ok channel := by
      intro part listed
      obtain ⟨among, solid⟩ := mem_filterParts.mp listed
      obtain ⟨channel, names⟩ := (legible part among).resolve_left solid
      exact ⟨channel, namedChannel_eq_ok.mpr names⟩
    obtain ⟨named, mapped⟩ := mapM_exists each
    exact ⟨selected named, map_eq_ok.mpr ⟨named, mapped, rfl⟩⟩

theorem parseFilter_selects {channels : List Channel} (h : parseFilter text = .ok channels) :
    (∀ channel, channel ∈ channels ↔
      Mentions asciiForm text channel ∨ ∀ part, IsPart (.char ',') text part → Blank part) ∧
    channels = Channel.sorted channels := by
  obtain ⟨named, mapped, rfl⟩ := map_eq_ok.mp h
  have mentioned (channel : Channel) : channel ∈ named ↔ Mentions asciiForm text channel := by
    constructor
    · intro listed
      obtain ⟨part, among, names⟩ := mapM_mem mapped listed
      exact ⟨part, (mem_filterParts.mp among).1, namedChannel_eq_ok.mp names⟩
    · rintro ⟨part, among, names⟩
      obtain ⟨found, listed, same⟩ :=
        mapM_ok_of_mem mapped (mem_filterParts.mpr ⟨among, names.not_blank⟩)
      rw [namedChannel_eq_ok.mpr names] at same
      cases same
      exact listed
  have noneNamed : named = [] ↔ ∀ part, IsPart (.char ',') text part → Blank part := by
    constructor
    · rintro rfl part among
      by_contra solid
      obtain ⟨channel, listed, -⟩ := mapM_ok_of_mem mapped (mem_filterParts.mpr ⟨among, solid⟩)
      cases listed
    · intro blank
      refine List.eq_nil_iff_forall_not_mem.mpr fun channel listed => ?_
      obtain ⟨part, among, -⟩ := mapM_mem mapped listed
      exact (mem_filterParts.mp among).2 (blank part (mem_filterParts.mp among).1)
  refine ⟨fun channel => ?_, selected_eq_sorted named⟩
  rw [mem_selected, mentioned, noneNamed]

theorem parseFilter_same {other : Text} {channels : List Channel}
    (h : parseFilter text = .ok channels) (legible : Legible asciiForm other)
    (same : ∀ channel, Mentions asciiForm other channel ↔ Mentions asciiForm text channel) :
    parseFilter other = .ok channels := by
  obtain ⟨others, accepted⟩ := parseFilter_accepts.mpr legible
  obtain ⟨members, sorted⟩ := parseFilter_selects h
  obtain ⟨otherMembers, otherSorted⟩ := parseFilter_selects accepted
  have blank := (parseFilter_accepts.mp ⟨channels, h⟩).blank_iff
  have equal (channel : Channel) : channel ∈ others ↔ channel ∈ channels := by
    simp only [members, otherMembers, blank, legible.blank_iff, same]
  rw [accepted, otherSorted, sorted]
  refine congrArg _ (List.filter_congr fun channel _ => ?_)
  rw [Bool.eq_iff_iff, List.contains_iff_mem, List.contains_iff_mem, equal]

theorem parseFilter_fails (h : parseFilter text = .error fault) :
    ∃ part, IsPart (.char ',') text part ∧ ¬ Blank part ∧ (∀ channel, ¬ Names asciiForm part channel) ∧
      fault = .unknownChannel (String.ofList (quoteText part)) := by
  obtain ⟨part, listed, fails⟩ := mapM_eq_error (map_eq_error.mp h)
  obtain ⟨among, solid⟩ := mem_filterParts.mp listed
  obtain ⟨fault, nameless⟩ := namedChannel_eq_error fails
  exact ⟨part, among, solid, nameless, fault⟩

theorem channelFilter_word (heap : Heap) (word : Word) :
    (⟨heap, word.slot⟩ : Value).channelFilter = parseFilter word.content := by
  cases word <;> rfl

/-- A filter text is accepted if each of its parts is blank or names a channel. Then it selects what
it mentions, or all if it is blank, and so does any other accepted text that mentions the same
channels. Any other text has a part that is neither blank nor a name, and is refused for one. -/
theorem channelFilter_grammar (heap : Heap) (word : Word) :
    let filter : Value := ⟨heap, word.slot⟩
    let text := word.content
    ((∃ channels, filter.channelFilter = .ok channels) ↔ Legible asciiForm text) ∧
    (∀ channels, filter.channelFilter = .ok channels →
      channels.Nodup ∧
      (∀ channel, channel ∈ channels ↔
        Mentions asciiForm text channel ∨ ∀ part, IsPart (.char ',') text part → Blank part) ∧
      ∀ other : Word, Legible asciiForm other.content →
        (∀ channel, Mentions asciiForm other.content channel ↔
          Mentions asciiForm text channel) →
        (⟨heap, other.slot⟩ : Value).channelFilter = .ok channels) ∧
    ∀ fault, filter.channelFilter = .error fault → fault.kind = "ValueError" ∧
      ∃ part, IsPart (.char ',') text part ∧ ¬ Blank part ∧ (∀ channel, ¬ Names asciiForm part channel) ∧
        fault = .unknownChannel (String.ofList (quoteText part)) := by
  intro filter text
  rw [channelFilter_word]
  refine ⟨parseFilter_accepts, fun channels accepted => ?_, fun fault refused => ?_⟩
  · obtain ⟨members, sorted⟩ := parseFilter_selects accepted
    have once : channels.Nodup := by
      rw [sorted]
      exact (show Channel.all.Nodup by decide).sublist List.filter_sublist
    refine ⟨once, members, fun other legible same => ?_⟩
    rw [channelFilter_word]
    exact parseFilter_same accepted legible same
  · obtain ⟨part, among, solid, nameless, rfl⟩ := parseFilter_fails refused
    exact ⟨rfl, part, among, solid, nameless, rfl⟩

example : (Value.text "EVENTS, ,\tblocks,events").channelFilter = .ok [.blocks, .events] := by
  rfl

/-- With letters of ASCII alone it would be otherwise: the Kelvin sign in this text is none. -/
theorem channelFilter_kelvin :
    ¬ ((∃ channels, (Value.text "bloc\u212as").channelFilter = .ok channels) ↔
      Legible Char.toLower "bloc\u212as") := by
  let text : Text := "bloc\u212as"
  have clear : Letter.char ',' ∉ text := by decide
  have named : Names asciiForm text .blocks := 
    ⟨[], "bloc\u212as".toList, [], (List.append_nil _).symm, nofun, nofun, by decide⟩
  have accepted : ∃ channels, (Value.text text).channelFilter = .ok channels := by
    refine parseFilter_accepts.mpr fun part among => .inr ⟨.blocks, ?_⟩
    rw [← mem_splitAt, splitAt_clear clear, List.mem_singleton] at among
    exact among ▸ named
  intro claim
  rcases claim.mp accepted _ (.only clear) with blank | ⟨channel, before, name, after, split, names⟩
  · exact absurd (blank (.char 'b') (by decide)) (by decide)
  · obtain ⟨inFront, behind, spelled⟩ := names
    have solid : (Letter.char '\u212a').isIn isBlank ≠ true := by decide
    have sign : Letter.char '\u212a' ∈ before ++ .ofChars name ++ after := split ▸ by decide
    rcases List.mem_append.mp sign with sign | sign
    · rcases List.mem_append.mp sign with sign | sign
      · exact solid (inFront _ sign)
      · obtain ⟨c, listed, same⟩ := List.mem_map.mp sign
        cases same
        have letter := List.mem_map_of_mem (f := Char.toLower) listed
        rw [spelled] at letter
        exact absurd (Channel.name_letters.2 _ letter).1 (by decide)
    · exact solid (behind _ sign)

end LedgerFeed

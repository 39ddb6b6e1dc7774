import EventText.Proofs.Template.Parts
import EventText.Proofs.Template.Questions

namespace EventText

-- Two collections of properties that hold the same under every one of the names.
def Properties.AgreeOn (properties others : Properties) (names : List String) : Prop :=
  ∀ name ∈ names, others.get? name = properties.get? name

-- A message looks up the properties of its own holes, and nothing else.

namespace Message

variable {look : Look} {properties others : Properties}

theorem writeHole_congr {hole : MessageHole}
    (h : others.get? hole.name = properties.get? hole.name) (b : Buffer) :
    writeHole look others hole b = writeHole look properties hole b := by
  rw [writeHole, writeHole, h]

theorem write_congr {tokens : List MessageToken}
    (h : properties.AgreeOn others ((MessageTemplate.holes tokens).map (·.name))) (b : Buffer) :
    write look others tokens b = write look properties tokens b := by
  induction tokens generalizing b with
  | nil => rfl
  | cons token rest ih =>
      have hrest : properties.AgreeOn others ((MessageTemplate.holes rest).map (·.name)) := by
        intro name hname
        obtain ⟨hole, hhole, rfl⟩ := List.mem_map.mp hname
        obtain ⟨other, hother, hfound⟩ := List.mem_filterMap.mp hhole
        refine h _ (List.mem_map_of_mem (List.mem_filterMap.mpr ⟨other, ?_, hfound⟩))
        exact List.mem_cons_of_mem _ hother
      have htoken : writeToken look others token b = writeToken look properties token b := by
        cases token with
        | text chars => rfl
        | hole hole =>
            refine writeHole_congr (h _ (List.mem_map_of_mem ?_)) b
            exact List.mem_filterMap.mpr ⟨_, List.mem_cons_self, rfl⟩
      simp only [write, htoken, ih hrest]

theorem renderings_congr {tokens : List MessageToken}
    (h : properties.AgreeOn others ((MessageTemplate.holes tokens).map (·.name))) :
    renderings look others tokens = renderings look properties tokens := by
  refine List.map_congr_left fun hole hhole => ?_
  have hname := h hole.name (List.mem_map_of_mem (List.mem_filter.mp hhole).1)
  rw [writeHole_congr hname]

end Message

-- Two events that differ at most in their properties.
structure Event.EqExceptProperties (event other : Event) : Prop where
  timestamp : other.timestamp = event.timestamp
  level : other.level = event.level
  messageTemplate : other.messageTemplate = event.messageTemplate
  exception : other.exception = event.exception

-- Two such events that give the same answers to some questions.
structure Event.Alike (event other : Event) (questions : List Question) : Prop
    extends event.EqExceptProperties other where
  message : Question.builtin .message ∈ questions →
    event.properties.AgreeOn other.properties (event.messageHoles.map (·.name))
  answers : ∀ q ∈ questions, q.answer other = q.answer event

namespace Event.Alike

variable {event other : Event} {questions fewer : List Question}

theorem mono (h : event.Alike other questions) (hsub : fewer ⊆ questions) :
    event.Alike other fewer where
  toEqExceptProperties := h.toEqExceptProperties
  message := fun hmessage => h.message (hsub hmessage)
  answers := fun q hq => h.answers q (hsub hq)

theorem eval_eq {plan : Plan} {scope : Scope} (h : scope.event.Alike other plan.questions) :
    plan.eval { scope with event := other } = plan.eval scope :=
  Plan.eval_congr h.answers

end Event.Alike

namespace Node

variable {look : Look} {event : Event}

theorem bindRound_event (scope : Scope) (first : Nat) (second : Option Nat)
    (round : Outcome × Outcome) :
    bindRound { scope with event } first second round
      = { bindRound scope first second round with event } := by
  cases second <;> rfl

theorem event_bindRound (scope : Scope) (first : Nat) (second : Option Nat)
    (round : Outcome × Outcome) : (bindRound scope first second round).event = scope.event := by
  cases second <;> rfl

-- With one round or none nothing is written between rounds.
theorem writeRounds_congr {body body' : Outcome × Outcome → Buffer → Buffer}
    {between between' : Buffer → Buffer} {rounds : List (Outcome × Outcome)}
    (hbody : ∀ round ∈ rounds, body round = body' round)
    (hbetween : 2 ≤ rounds.length → between = between') (b : Buffer) :
    writeRounds body between rounds b = writeRounds body' between' rounds b := by
  fun_induction writeRounds body between rounds b with
  | case1 b => rfl
  | case2 round b => rw [writeRounds, hbody round List.mem_cons_self]
  | case3 round rest b hrest ih =>
      have hlong : 2 ≤ (round :: rest).length := by
        have := List.length_pos_iff.mpr hrest
        rw [List.length_cons]
        omega
      obtain rfl := hbetween hlong
      rw [ih (fun other hother => hbody other (List.mem_cons_of_mem _ hother)) fun _ => rfl,
        hbody round List.mem_cons_self]
      cases rest with
      | nil => exact absurd rfl hrest
      | cons next others => rfl

theorem writeMessage_congr {other : Event}
    (htemplate : other.messageTemplate = event.messageTemplate)
    (h : event.properties.AgreeOn other.properties (event.messageHoles.map (·.name)))
    (alignment : Option Alignment) (b : Buffer) :
    writeMessage look alignment other b = writeMessage look alignment event b := by
  rw [writeMessage, writeMessage, htemplate, Message.write_congr h]

private theorem writeAll_congr {nodes : List Node} {scope : Scope}
    (h : scope.event.Alike event (questionsAll nodes))
    (ih : ∀ part ∈ nodes, ∀ {scope : Scope}, scope.event.Alike event part.questions → ∀ b,
      part.write look { scope with event } b = part.write look scope b) (b : Buffer) :
    writeAll look nodes { scope with event } b = writeAll look nodes scope b := by
  induction nodes generalizing b with
  | nil => simp [writeAll]
  | cons node rest ihrest =>
      have hnode : scope.event.Alike event node.questions :=
        h.mono fun q hq => by simp [questionsAll, hq]
      have hrest : scope.event.Alike event (questionsAll rest) :=
        h.mono fun q hq => by simp [questionsAll, hq]
      rw [writeAll, writeAll, ih node List.mem_cons_self hnode]
      exact ihrest hrest (fun part hpart => ih part (List.mem_cons_of_mem _ hpart)) _

private theorem writeSection_congr {part : Option Node} {scope : Scope}
    (h : scope.event.Alike event (questionsSection part))
    (ih : ∀ node ∈ part.toList, ∀ {scope : Scope}, scope.event.Alike event node.questions → ∀ b,
      node.write look { scope with event } b = node.write look scope b) :
    writeSection look part { scope with event } = writeSection look part scope := by
  funext b
  cases part with
  | none => simp [writeSection]
  | some node =>
      simp only [writeSection]
      exact ih node (by simp) h b

private theorem writeChoice_congr {branches : List (Plan × Node)} {scope : Scope}
    {otherwise : Buffer → Buffer} (h : scope.event.Alike event (questionsBranches branches))
    (ih : ∀ branch ∈ branches, ∀ {scope : Scope}, scope.event.Alike event branch.2.questions →
      ∀ b, branch.2.write look { scope with event } b = branch.2.write look scope b)
    (b : Buffer) :
    writeChoice look branches otherwise { scope with event } b
      = writeChoice look branches otherwise scope b := by
  induction branches with
  | nil => simp [writeChoice]
  | cons branch rest ihrest =>
      obtain ⟨condition, node⟩ := branch
      have hcondition : scope.event.Alike event condition.questions :=
        h.mono fun q hq => by simp [questionsBranches, hq]
      have hnode : scope.event.Alike event node.questions :=
        h.mono fun q hq => by simp [questionsBranches, hq]
      have hrest : scope.event.Alike event (questionsBranches rest) :=
        h.mono fun q hq => by simp [questionsBranches, hq]
      rw [writeChoice, writeChoice, hcondition.eval_eq, ih _ List.mem_cons_self hnode]
      rw [ihrest hrest fun other hother => ih other (List.mem_cons_of_mem _ hother)]

-- What a node writes depends on nothing of the event but what it asks for.
theorem write_congr {node : Node} {scope : Scope} (h : scope.event.Alike event node.questions)
    (b : Buffer) : node.write look { scope with event } b = node.write look scope b := by
  induction node using partInduction generalizing scope b with
  | step node ih =>
      cases node with
      | literal chars => simp [write]
      | expression plan format alignment =>
          rw [questions] at h
          rw [write, write, h.eval_eq]
      | level format alignment => rw [write, write, h.level]
      | timestamp format alignment => rw [write, write, h.timestamp]
      | message alignment =>
          rw [write, write]
          exact writeMessage_congr h.messageTemplate (h.message (by simp [questions])) alignment b
      | exception => rw [write, write, h.exception]
      | sequence nodes =>
          rw [write, write]
          rw [questions] at h
          exact writeAll_congr h (fun part hpart _ => ih part hpart) b
      | choice branches otherwise =>
          have hotherwise : scope.event.Alike event (questionsSection otherwise) :=
            h.mono fun q hq => by simp [questions, hq]
          rw [write, write, writeSection_congr hotherwise fun part hpart _ hpartAlike b =>
            ih part (by simp [parts, Option.mem_toList.mp hpart]) hpartAlike b]
          have hbranches : scope.event.Alike event (questionsBranches branches) :=
            h.mono fun q hq => by simp [questions, hq]
          refine writeChoice_congr hbranches ?_ b
          exact fun branch hbranch _ =>
            ih branch.2 (List.mem_append_left _ (List.mem_map_of_mem hbranch))
      | iteration collection first second body delimiter alternative =>
          have hcollection : scope.event.Alike event collection.questions :=
            h.mono fun q hq => by simp [questions, hq]
          have hbody : scope.event.Alike event body.questions :=
            h.mono fun q hq => by simp [questions, hq]
          have hdelimiter : scope.event.Alike event (questionsSection delimiter) :=
            h.mono fun q hq => by simp [questions, hq]
          have halternative : scope.event.Alike event (questionsSection alternative) :=
            h.mono fun q hq => by simp [questions, hq]
          have hsections : ∀ part ∈ delimiter.toList ++ alternative.toList, ∀ {scope : Scope},
              scope.event.Alike event part.questions → ∀ b,
                part.write look { scope with event } b = part.write look scope b :=
            fun part hpart => ih part (List.mem_cons_of_mem _ hpart)
          rw [write, write, hcollection.eval_eq]
          cases ((collection.eval scope).value?.map Value.rounds).getD [] with
          | nil =>
              have hsection := writeSection_congr halternative fun part hpart _ =>
                hsections part (List.mem_append_right _ hpart)
              exact congrFun hsection b
          | cons round rest =>
              refine writeRounds_congr (fun round _ => funext fun b => ?_) (fun _ => ?_) b
              · rw [bindRound_event]
                refine ih body List.mem_cons_self ?_ b
                rw [event_bindRound]
                exact hbody
              · exact writeSection_congr hdelimiter fun part hpart _ =>
                  hsections part (List.mem_append_left _ hpart)

end Node

namespace Event

variable {event other : Event}

-- Of the properties that all events have only some look at other properties.
theorem EqExceptProperties.ofEvent_eq (h : event.EqExceptProperties other) {p : BuiltinProperty}
    (hwhole : p ≠ .properties)
    (hholes : p = .message ∨ p = .renderings →
      event.properties.AgreeOn other.properties (event.messageHoles.map (·.name))) :
    p.ofEvent other = p.ofEvent event := by
  cases p with
  | timestamp => simp only [BuiltinProperty.ofEvent, h.timestamp]
  | messageTemplate => simp only [BuiltinProperty.ofEvent, h.messageTemplate]
  | level => simp only [BuiltinProperty.ofEvent, h.level]
  | exception => simp only [BuiltinProperty.ofEvent, h.exception]
  | eventId => simp only [BuiltinProperty.ofEvent, h.messageTemplate]
  | properties => exact absurd rfl hwhole
  | message =>
      have hmessage : other.message = event.message := by
        simp only [Event.message, h.messageTemplate]
        rw [Message.write_congr (hholes (.inl rfl))]
      simp only [BuiltinProperty.ofEvent, hmessage]
  | renderings =>
      simp only [BuiltinProperty.ofEvent, Event.renderings, h.messageTemplate]
      rw [Message.renderings_congr (hholes (.inr rfl))]

theorem EqExceptProperties.alike (h : event.EqExceptProperties other) {questions : List Question}
    (hnamed : ∀ name, Question.property name ∈ questions →
      other.properties.get? name = event.properties.get? name)
    (hholes : Question.builtin .message ∈ questions ∨ Question.builtin .renderings ∈ questions →
      event.properties.AgreeOn other.properties (event.messageHoles.map (·.name)))
    (hwhole : Question.builtin .properties ∉ questions)
    (hrest : ∀ names, Question.remaining names ∉ questions) : event.Alike other questions where
  toEqExceptProperties := h
  message := fun hmessage => hholes (.inl hmessage)
  answers := by
    intro q hq
    cases q with
    | property name => exact congrArg Outcome.ofOption (hnamed name hq)
    | remaining names => exact absurd hq (hrest names)
    | builtin p =>
        refine h.ofEvent_eq (fun hp => hwhole (hp ▸ hq)) ?_
        rintro (rfl | rfl)
        · exact hholes (.inl hq)
        · exact hholes (.inr hq)

end Event

-- Rendering depends on no property but those that the template names, and on those that the message
-- shows where the message or its parts are asked for.
theorem Template.format_congr {source : String} {look : Look} {resolver : Resolver}
    {template : Template} (h : Template.read source look resolver = .ok template) :
    ∃ pieces blocks, Piece.readAll source = .ok pieces ∧ Block.nest pieces = .ok blocks ∧
      ((∀ e ∈ Block.expressionsAll blocks, e.RestFree ∧ ¬ e.UsesWhole) →
        ∀ event other : Event, event.EqExceptProperties other →
          event.properties.AgreeOn other.properties
            (Block.referencesAll (Block.bindAll [] 0 blocks).1) →
          ((∃ e ∈ Block.expressionsAll blocks,
              (Expr.builtin .message).Occurs e ∨ (Expr.builtin .renderings).Occurs e) →
            event.properties.AgreeOn other.properties (event.messageHoles.map (·.name))) →
          ∀ clock output,
            template.format clock other output = template.format clock event output) := by
  obtain ⟨pieces, blocks, hpieces, hnest, hperm⟩ := questions_perm h
  refine ⟨pieces, blocks, hpieces, hnest, ?_⟩
  intro hform event other hsame hnamed hholes clock output
  -- Every question stands somewhere in the source.
  have hplace : ∀ q ∈ template.root.questions, ∃ e ∈ Block.expressionsAll blocks,
      ∃ excluded captured, q ∈ e.questions excluded captured := by
    intro q hq
    obtain ⟨place, hplace, hq⟩ := List.mem_flatMap.mp (hperm.mem_iff.mp hq)
    refine ⟨place.1, ?_, _, _, hq⟩
    rw [← Block.map_placesAll []]
    exact List.mem_map_of_mem hplace
  have halike : event.Alike other template.root.questions := by
    refine hsame.alike ?_ ?_ ?_ ?_
    · intro name hname
      refine hnamed name ?_
      rw [(Block.binds_bindAll [] 0 blocks).mem_referencesAll]
      exact Block.property_mem_questions.mp (hperm.mem_iff.mp hname)
    · rintro (hq | hq)
      · obtain ⟨e, he, _, _, hasked⟩ := hplace _ hq
        exact hholes ⟨e, he, .inl (Expr.builtin_occurs hasked)⟩
      · obtain ⟨e, he, _, _, hasked⟩ := hplace _ hq
        exact hholes ⟨e, he, .inr (Expr.builtin_occurs hasked)⟩
    · intro hq
      obtain ⟨e, he, _, _, hasked⟩ := hplace _ hq
      exact (hform e he).2 (Expr.usesWhole_of_mem_questions hasked)
    · intro names hq
      obtain ⟨e, he, _, _, hasked⟩ := hplace _ hq
      obtain ⟨-, name, ignoreCase, position, hoccurs, hrest⟩ := Expr.rest_occurs hasked
      have hfree := (hform e he).1 name [] ignoreCase position hoccurs
      rw [hrest] at hfree
      cases hfree
  have hwritten := @Node.write_congr template.look other template.root
    (Scope.ofEvent event clock) halike (Buffer.ofBytes output)
  exact congrArg (fun b : Buffer => b.flush.bytes) hwritten

-- `{Name} {@m}`

private def noticeSource : String := "\x7bName\x7d \x7b@m\x7d"

private def noticePieces : List Piece :=
  [.placeholder ⟨.property "Name", none, none, 0⟩, .text [' '],
    .placeholder ⟨.builtin .message, none, none, 7⟩]

private def noticeBlocks : List (Block String) :=
  [.placeholder ⟨.property "Name", none, none, 0⟩, .text [' '],
    .placeholder ⟨.builtin .message, none, none, 7⟩]

private def noticeBound : BoundTemplate :=
  ⟨[.placeholder ⟨.property "Name", none, none, 0⟩, .text [' '],
    .placeholder ⟨.builtin .message, none, none, 7⟩], 0⟩

private def noticeRoot : Node :=
  .sequence [.expression (.property "Name") none none, .literal [' '], .message none]

private def noticeEvent (properties : List (String × Value)) : Event :=
  { timestamp := midday, level := .information, messageTemplate := "\x7bCount\x7d left"
    exception := none, properties := .ofList properties }

private def fewProperties : List (String × Value) :=
  [("Name", .ofString "Ann"), ("Count", .scalar (.uint 3))]

private def moreProperties : List (String × Value) :=
  [("Count", .scalar (.uint 3)), ("Other", .ofString "x"), ("Name", .ofString "Ann")]

private theorem read_notice :
    Template.read noticeSource Look.plain Resolver.empty = .ok ⟨noticeRoot, Look.plain⟩ := by
  have hpieces : Piece.readAll noticeSource = .ok noticePieces := rfl
  have hbound : BoundTemplate.ofPieces noticePieces = .ok noticeBound := rfl
  have hroot : noticeBound.lower Resolver.empty = .ok noticeRoot := by
    simp [noticeBound, noticeRoot]
  exact Template.read_eq_ok.mpr ⟨_, _, _, hpieces, hbound, hroot, rfl⟩

theorem Template.format_other_properties :
    ∃ template, Template.read noticeSource Look.plain Resolver.empty = .ok template ∧
      template.format midday (noticeEvent moreProperties) []
        = template.format midday (noticeEvent fewProperties) [] := by
  obtain ⟨pieces, blocks, hpieces, hnest, hformat⟩ := format_congr read_notice
  obtain rfl : pieces = noticePieces := Except.ok.inj (hpieces.symm.trans rfl)
  obtain rfl : blocks = noticeBlocks := Except.ok.inj (hnest.symm.trans rfl)
  have hexpressions : Block.expressionsAll noticeBlocks
      = [.property "Name", .builtin .message] := rfl
  have hform : ∀ e ∈ Block.expressionsAll noticeBlocks, e.RestFree ∧ ¬ e.UsesWhole := by
    intro e he
    have heither : e = .property "Name" ∨ e = .builtin .message := by
      simpa [hexpressions] using he
    rcases heither with rfl | rfl
    all_goals
      constructor
      · intro name arguments ignoreCase position hcall
        cases hcall with
        | inside hc => cases hc
      · intro hwhole
        cases hwhole with
        | inside hc => cases hc
  have hnamed : (noticeEvent fewProperties).properties.AgreeOn
      (noticeEvent moreProperties).properties
      (Block.referencesAll (Block.bindAll [] 0 noticeBlocks).1) := by
    have hcollected : Block.referencesAll (Block.bindAll [] 0 noticeBlocks).1 = ["Name"] := rfl
    intro name hname
    obtain rfl : name = "Name" := by simpa [hcollected] using hname
    rfl
  have hholes : (noticeEvent fewProperties).properties.AgreeOn
      (noticeEvent moreProperties).properties
      ((noticeEvent fewProperties).messageHoles.map (·.name)) := by
    have hnames : (noticeEvent fewProperties).messageHoles.map (·.name) = ["Count"] := rfl
    intro name hname
    obtain rfl : name = "Count" := by
      rw [hnames] at hname
      simpa using hname
    rfl
  exact ⟨_, read_notice, hformat hform (noticeEvent fewProperties) (noticeEvent moreProperties)
    ⟨rfl, rfl, rfl, rfl⟩ hnamed (fun _ => hholes) midday []⟩

end EventText

import CanOpen.Proofs.Assembly
import CanOpen.Proofs.BlockRefusal
import CanOpen.Proofs.Disturbance
import CanOpen.Proofs.Requestability

/-!
# Transfers that are given up

A node may give a transfer up whenever one of its replies is waited for, and a block download
gives itself up when it is asked for a block that there cannot be.  Either is the end of the
call and nothing else makes a call say that it was given up.
-/

set_option autoImplicit false

namespace CanOpen

variable {σ ε : Type}

/-! ## What the node says -/

namespace Sdo

theorem ServerCommand.ofByte_eq_abort_iff (byte : UInt8) :
    ServerCommand.ofByte byte = .abort ↔ byte.toNat / 32 = 4 := by
  have bound := byte.toNat_lt
  rw [ServerCommand.ofByte, toNat_specifier]
  split <;> simp <;> omega

/-- Whether a text is that of an abort code; one text stands for all codes without a
meaning. -/
def Describes (text : String) (code : UInt32) : Prop :=
  (∃ abort : AbortCode, abort.code = code ∧ text = abort.description)
  ∨ ((∀ abort : AbortCode, abort.code ≠ code) ∧ text = "Unknown error")

theorem describes_describe (code : UInt32) : Describes (AbortCode.describe code) code := by
  rw [AbortCode.describe]
  cases found : AbortCode.ofCode? code with
  | some abort =>
      have same : (abort.code == code) = true :=
        List.find?_some (p := fun abort : AbortCode => abort.code == code) found
      exact .inl ⟨abort, eq_of_beq same, rfl⟩
  | none =>
      refine .inr ⟨fun abort same => ?_, rfl⟩
      rw [← same, AbortCode.ofCode?_code] at found
      cases found

end Sdo

open Sdo

namespace Message

variable {node : UInt8} {message : Message}

theorem said?_of_isReplyOf (coherent : message.Coherent) (reply : message.IsReplyOf node) :
    message.said? node = some (ServerCommand.ofByte message.octets.first) := by
  obtain ⟨carries, own⟩ := reply
  obtain ⟨payload, body⟩ := coherent.sdo_iff.2 (.inl carries)
  obtain ⟨standard, _, function, _⟩ := carries
  have from_node : message.isFrom .sdoTx node = true := by
    simp [isFrom, standard, function, own]
  rw [said?, if_pos from_node, body, octets_of_body body]
  rfl

theorem said?_ne_none_iff (coherent : message.Coherent) :
    message.said? node ≠ none ↔ message.IsReplyOf node := by
  constructor
  · intro speaks
    rw [said?] at speaks
    split at speaks
    next own =>
      simp only [isFrom, Bool.and_eq_true, beq_iff_eq] at own
      obtain ⟨⟨_, function⟩, own⟩ := own
      cases body : message.body with
      | sdo payload =>
          obtain carries | ⟨_, _, other, _⟩ := coherent.sdo_iff.1 ⟨payload, body⟩
          · exact ⟨carries, own⟩
          · rw [function] at other
            cases other
      | _ => simp [body] at speaks
    next => exact absurd rfl speaks
  · intro reply
    rw [said?_of_isReplyOf coherent reply]
    exact Option.some_ne_none _

theorem said?_eq_abort_iff (coherent : message.Coherent) :
    message.said? node = some .abort
      ↔ message.IsReplyOf node ∧ message.octets.first.toNat / 32 = 4 := by
  rw [← ServerCommand.ofByte_eq_abort_iff]
  constructor
  · intro aborts
    have reply : message.IsReplyOf node :=
      (said?_ne_none_iff coherent).1 (by rw [aborts]; exact Option.some_ne_none _)
    rw [said?_of_isReplyOf coherent reply] at aborts
    exact ⟨reply, Option.some.inj aborts⟩
  · rintro ⟨reply, aborts⟩
    rw [said?_of_isReplyOf coherent reply, aborts]

end Message

namespace Sdo

/-! ## Given up by the node -/

section Node

variable {α : Type} {conduct : Conduct} {deeds : List (Entry ε)}
  {result : Except (Failure ε) α}

/-- Whether the deeds of a call end with the first message by which the node gives it up, and
the call fails with the code and the text of that message. -/
structure GivenUpBy (node : UInt8) (reply : Message) (deeds : List (Entry ε))
    (result : Except (Failure ε) α) : Prop where
  aborts : reply.said? node = some .abort
  last : ∃ before, deeds = before ++ [.received reply]
    ∧ ∀ earlier ∈ receivedIn before, earlier.said? node ≠ some .abort
  result_eq : ∃ text, Describes text reply.abortCode
    ∧ result = .error (.abort reply.abortCode text)

theorem not_aborts_of_uneventful {before : List (Entry ε)} (heeds : conduct.heeds = true)
    (uneventful : ∀ deed ∈ before, Uneventful conduct deed) :
    ∀ message ∈ receivedIn before, message.said? conduct.node ≠ some .abort := by
  intro message member
  obtain ⟨deed, inside, receives⟩ := List.mem_filterMap.1 member
  have quiet := uneventful deed inside
  cases deed with
  | received other =>
      obtain rfl : other = message := Option.some.inj receives
      exact quiet heeds
  | _ => cases receives

theorem givenUpBy_of_last {before : List (Entry ε)} {reply : Message}
    (heeds : conduct.heeds = true) (aborts : reply.said? conduct.node = some .abort)
    (uneventful : ∀ deed ∈ before, Uneventful conduct deed) :
    GivenUpBy conduct.node reply (before ++ [.received reply])
      (.error (.abort reply.abortCode (AbortCode.describe reply.abortCode))
        : Except (Failure ε) α) where
  aborts := aborts
  last := ⟨before, rfl, not_aborts_of_uneventful heeds uneventful⟩
  result_eq := ⟨_, describes_describe reply.abortCode, rfl⟩

theorem Concludes.givenUpBy (concludes : Concludes conduct deeds result)
    (heeds : conduct.heeds = true) {reply : Message} (member : reply ∈ receivedIn deeds)
    (aborts : reply.said? conduct.node = some .abort) :
    GivenUpBy conduct.node reply deeds result := by
  obtain ⟨before, last, rfl, uneventful, conclusion⟩ := concludes
  rw [receivedIn_append, List.mem_append] at member
  rcases member with earlier | last
  · exact absurd aborts (not_aborts_of_uneventful heeds uneventful reply earlier)
  · cases conclusion with
    | settled harmless | unreceived cause | unsent message cause asks => cases last
    | givenUp other _ _ =>
        obtain rfl := List.mem_singleton.1 last
        exact givenUpBy_of_last heeds aborts uneventful
    | refused other refuses goesOn | silenced other refuses cause goesOn =>
        obtain rfl := List.mem_singleton.1 last
        exact absurd aborts (goesOn heeds)

end Node

/-! ## Given up over the size of a block -/

/-- How a download gives itself up after a reply: it tells the node so and fails, or fails to
tell it. -/
inductive GivesUpAfter {α : Type} (refusal reply : Message) :
    List (Entry ε) → Except (Failure ε) α → Prop
  | told (before : List (Entry ε)) :
      GivesUpAfter refusal reply (before ++ [.received reply, .sent refusal])
        (.error (.abort 0x05040002 "Invalid block size (block mode only)"))
  | untold (before : List (Entry ε)) (cause : ε) :
      GivesUpAfter refusal reply (before ++ [.received reply, .unsent refusal cause])
        (.error (.transport cause))

section Blocks

variable {node : UInt8} {index : UInt16} {subindex : UInt8} {data : List UInt8}
  {α : Type} {conduct : Conduct} {deeds : List (Entry ε)}
  {result : Except (Failure ε) α}

/-- Nothing but giving itself up makes a call hand over its refusal. -/
theorem Concludes.givesUpAfter (concludes : Concludes conduct deeds result)
    {refusal reply : Message} (refuses : conduct.refusal = some refusal)
    (gone : ¬ Asks conduct.node refusal) (member : ⟨reply, [refusal]⟩ ∈ turns deeds) :
    GivesUpAfter refusal reply deeds result := by
  obtain ⟨before, last, rfl, uneventful, conclusion⟩ := concludes
  have quiet : refusal ∉ offeredIn before := fun offered =>
    gone (asks_of_uneventful uneventful refusal offered)
  have offered : refusal ∈ offeredIn last := by
    have among := mem_offeredIn_of_mem_turns member refusal (List.mem_singleton_self _)
    rw [offeredIn_append, List.mem_append] at among
    exact among.resolve_left quiet
  have notBefore : ⟨reply, [refusal]⟩ ∉ turns before := fun earlier =>
    quiet (mem_offeredIn_of_mem_turns earlier refusal (List.mem_singleton_self _))
  -- The refusal is in the conclusion, and two conclusions alone can have it.
  cases conclusion with
  | settled harmless | unreceived cause | givenUp other heeds aborts => cases offered
  | unsent message cause asks =>
      obtain rfl := List.mem_singleton.1 offered
      exact absurd asks gone
  | @refused other sent told goesOn =>
      obtain rfl := Option.some.inj (refuses.symm.trans told)
      rw [turns_append_received, List.mem_append] at member
      obtain ⟨rfl, _⟩ := Turn.mk.inj (List.mem_singleton.1 (member.resolve_left notBefore))
      exact .told before
  | @silenced other unsent untold cause goesOn =>
      obtain rfl := Option.some.inj (refuses.symm.trans untold)
      rw [turns_append_received, List.mem_append] at member
      obtain ⟨rfl, _⟩ := Turn.mk.inj (List.mem_singleton.1 (member.resolve_left notBefore))
      exact .untold before cause

theorem Concludes.givenUp_cases (concludes : Concludes conduct deeds result) {code : UInt32}
    {text : String} (aborted : result = .error (.abort code text)) :
    (conduct.heeds = true ∧ ∃ reply, GivenUpBy conduct.node reply deeds result)
    ∨ ∃ refusal reply, conduct.refusal = some refusal
      ∧ GivesUpAfter refusal reply deeds result := by
  obtain ⟨before, last, rfl, uneventful, conclusion⟩ := concludes
  cases conclusion with
  | settled harmless =>
      rw [aborted] at harmless
      cases harmless
  | unreceived cause | unsent message cause asks | silenced reply refuses cause goesOn =>
      cases aborted
  | givenUp reply heeds aborts =>
      exact .inl ⟨heeds, reply, givenUpBy_of_last heeds aborts uneventful⟩
  | refused reply refuses goesOn => exact .inr ⟨_, reply, refuses, .told before⟩

theorem GivesUpAfter.ne_malformed {refusal reply : Message}
    (givesUp : GivesUpAfter refusal reply deeds result) (cause : CodecError) :
    result ≠ .error (.malformed cause) := by
  cases givesUp <;> exact nofun

theorem GivesUpAfter.mem_answered {refusal reply : Message}
    (givesUp : GivesUpAfter refusal reply deeds result) :
    ⟨reply, [refusal]⟩ ∈ answered deeds := by
  rw [answered, List.mem_filter]
  cases givesUp with
  | told before =>
      rw [turns_append_received]
      exact ⟨List.mem_append_right _ (List.mem_singleton_self _), rfl⟩
  | untold before cause =>
      rw [turns_append_received]
      exact ⟨List.mem_append_right _ (List.mem_singleton_self _), rfl⟩

end Blocks

/-! ## Uploads keep what they have read -/

section Upload

variable {node : UInt8} {reply : Message}

theorem acceptedFrom_concat (foreign : ∀ toggle, reply.isSegment node toggle = false)
    (awaited : Bool) (heard : List Message) :
    acceptedFrom node awaited (heard ++ [reply]) = acceptedFrom node awaited heard := by
  induction heard generalizing awaited with
  | nil => simp [acceptedFrom, foreign]
  | cons message others inductionHypothesis =>
      simp only [List.cons_append, acceptedFrom, inductionHypothesis]

theorem uploadedBytes_concat (aborts : reply.said? node = some .abort) (heard : List Message) :
    uploadedBytes node (heard ++ [reply]) = uploadedBytes node heard := by
  have grantless : reply.grantsUpload node = false := by simp [Message.grantsUpload, aborts]
  have foreign (toggle : Bool) : reply.isSegment node toggle = false := by
    simp [Message.isSegment, aborts]
  cases granted : fromGrant node heard with
  | nil =>
      have still : fromGrant node (heard ++ [reply]) = [] := by
        rw [fromGrant] at granted ⊢
        simp [List.dropWhile_append, granted, grantless]
      rw [uploadedBytes, uploadedBytes, still, granted]
  | cons grant others =>
      have still : fromGrant node (heard ++ [reply]) = grant :: (others ++ [reply]) := by
        rw [fromGrant] at granted ⊢
        simp [List.dropWhile_append, granted]
      simp only [uploadedBytes, acceptedSegments, still, granted, acceptedFrom_concat foreign]

end Upload

/-! ## Expedited downloads take any reply for success -/

theorem Course.settled_expeditedDownload {budget : Nat} {node : UInt8} {index : UInt16}
    {subindex : UInt8} {data : List UInt8} {state : Unit} {left : Nat}
    {traffic : List (Entry ε)} {ending : Ending ε Unit Unit}
    (course : Course (Transfer.expeditedDownload budget node index subindex data) state left
      traffic ending) :
    ∀ reply ∈ receivedIn traffic, reply.said? node ≠ none →
      ending.result = .ok () ∧ ∃ before, traffic = before ++ [.received reply]
        ∧ ∀ earlier ∈ receivedIn before, earlier.said? node = none := by
  induction course using Course.induct with
  | exhausted state => exact List.forall_mem_nil _
  | unreceived state left cause => exact List.forall_mem_nil _
  | received state left message traffic ending course aftermath =>
      intro reply member speaks
      obtain ⟨silent, _, ignores⟩ | ⟨payload, _, _, reacts⟩ :=
        (Transfer.expeditedDownload (ε := ε) budget node index subindex data).hear_cases state
          message
      · rw [ignores] at aftermath
        cases aftermath with
        | ignored later =>
            obtain ⟨_, inductionHypothesis⟩ := later
            obtain rfl | later := List.mem_cons.1 member
            · exact absurd silent speaks
            · obtain ⟨settled, before, rfl, unsaid⟩ := inductionHypothesis reply later speaks
              exact ⟨settled, .received message :: before, rfl,
                List.forall_mem_cons.2 ⟨silent, unsaid⟩⟩
      · have settles : ∃ notes, (Transfer.expeditedDownload (ε := ε) budget node index subindex
            data).react state payload = .finish notes [] () (.ok ()) := by
          unfold Transfer.expeditedDownload
          dsimp only
          split <;> exact ⟨_, rfl⟩
        obtain ⟨notes, settles⟩ := settles
        rw [reacts, settles] at aftermath
        cases aftermath with
        | finished sent =>
            cases sent
            obtain rfl := List.mem_singleton.1 member
            exact ⟨rfl, [], rfl, List.forall_mem_nil _⟩

/-! ## Calls -/

/-- What giving up has to do with a run of a call. -/
structure AbortsExactly (call : Call) (run : Run σ ε (Answer ε)) : Prop where
  /-- A node that gives a call up ends it at once, unless it is an expedited download. -/
  heeds : (∀ node index subindex data, call ≠ .expeditedDownload node index subindex data) →
    ∀ reply ∈ receivedIn run.journal, reply.said? call.node = some .abort →
      GivenUpBy call.node reply (deedsIn run.journal) run.answer.result
  only : ∀ code text, run.answer.result = .error (.abort code text) →
    (∃ reply, GivenUpBy call.node reply (deedsIn run.journal) run.answer.result)
    ∨ ∃ node index subindex data reply, call = .blockDownload node index subindex data
      ∧ GivesUpAfter (refusal node index subindex) reply (deedsIn run.journal)
          run.answer.result
  /-- A block download gives itself up exactly after a reply that asks for a block that there
  cannot be. -/
  refuses : ∀ node index subindex data, call = .blockDownload node index subindex data →
    ∀ reply, offender node data.length (receivedIn run.journal) = some reply
      ↔ GivesUpAfter (refusal node index subindex) reply (deedsIn run.journal)
          run.answer.result
  /-- What an upload has read stays in its buffer when the node gives it up. -/
  keeps : ∀ node index subindex contents, call = .segmentedUpload node index subindex contents →
    ∀ before reply, deedsIn run.journal = before ++ [.received reply] →
      reply.said? node = some .abort →
      let bytes := uploadedBytes node (receivedIn before)
      let count := min contents.length bytes.length
      run.answer.buffer = some (bytes.take count ++ contents.drop count)
  /-- An expedited download takes any reply of the node for success and is never given up. -/
  accepts : ∀ node index subindex data, call = .expeditedDownload node index subindex data →
    (∀ code text, run.answer.result ≠ .error (.abort code text))
    ∧ ∀ reply ∈ receivedIn run.journal, reply.said? node ≠ none →
        run.answer.result = .ok .done
        ∧ ∃ before, deedsIn run.journal = before ++ [.received reply]
          ∧ ∀ earlier ∈ receivedIn before, earlier.said? node = none

theorem abortsExactly_of_unheard {call : Call} {run : Run σ ε (Answer ε)} {cause : CodecError}
    (malformed : run.answer.result = .error (.malformed cause))
    (unheard : receivedIn run.journal = []) : AbortsExactly call run where
  heeds _ reply member := by
    rw [unheard] at member
    cases member
  only code text aborts := by
    rw [malformed] at aborts
    cases aborts
  refuses node index subindex data _ reply := by
    rw [unheard]
    constructor
    · intro offends
      cases offends
    · intro givesUp
      exact absurd malformed (givesUp.ne_malformed cause)
  keeps node index subindex contents _ before reply last _ := by
    have heard := receivedIn_deedsIn run.journal
    rw [last, unheard, receivedIn_append] at heard
    exact absurd heard (List.append_ne_nil_of_right_ne_nil _ (List.cons_ne_nil _ _))
  accepts node index subindex data _ := by
    rw [unheard, malformed]
    exact ⟨nofun, List.forall_mem_nil _⟩

variable [Transport σ ε]

theorem Call.offender_eq_some_iff {node : UInt8} {index : UInt16} {subindex : UInt8}
    {data : List UInt8} (requestable : (Call.blockDownload node index subindex data).Requestable)
    (config : Config) (transport : σ) (reply : Message) :
    let run : Run σ ε (Answer ε) :=
      Call.run config transport (.blockDownload node index subindex data)
    offender node data.length (receivedIn run.journal) = some reply
      ↔ GivesUpAfter (refusal node index subindex) reply (deedsIn run.journal)
          run.answer.result := by
  intro run
  have concludes : Concludes ⟨node, true, some (refusal node index subindex)⟩
      (deedsIn run.journal) run.answer.result :=
    Call.concludes requestable config transport
  obtain ⟨nodeFits, dataFits⟩ := requestable
  obtain ⟨request, built⟩ :=
    Request.initiateBlockDownload_eq_ok nodeFits index subindex dataFits config.blockCrc
  obtain ⟨_, blocks, closing, download, counted, _⟩ :=
    blockTurns_run (σ := σ) (ε := ε) config.transferRounds config.blockCrc nodeFits built
      transport
  rw [show offender node data.length (receivedIn run.journal) = some reply ↔ _ from
    download.offender_eq_some_iff counted reply]
  constructor
  · intro answers
    apply concludes.givesUpAfter rfl not_asks_refusal
    have turn := (List.mem_filter.1 answers).1
    rw [← turns_trafficIn, ← trafficIn_deedsIn, turns_trafficIn] at turn
    exact turn
  · intro givesUp
    have answers := givesUp.mem_answered
    rw [answered_deedsIn] at answers
    exact answers

theorem Call.kept_of_aborts {node : UInt8} (nodeFits : node.toNat ≤ 127) (index : UInt16)
    (subindex : UInt8) (contents : List UInt8) (config : Config) (transport : σ)
    {before : List (Entry ε)} {reply : Message} :
    let run : Run σ ε (Answer ε) :=
      Call.run config transport (.segmentedUpload node index subindex contents)
    deedsIn run.journal = before ++ [.received reply] → reply.said? node = some .abort →
      let bytes := uploadedBytes node (receivedIn before)
      let count := min contents.length bytes.length
      run.answer.buffer = some (bytes.take count ++ contents.drop count) := by
  intro run last aborts bytes count
  have built := Request.about_eq_ok nodeFits .initiateUpload index subindex
    (Vector.replicate 4 0)
  obtain ⟨uploads, _⟩ :=
    uploads_run (σ := σ) (ε := ε) config.transferRounds nodeFits built contents transport
  have read : uploadedBytes node (receivedIn run.journal) = bytes := by
    rw [← receivedIn_deedsIn, last, receivedIn_append]
    exact uploadedBytes_concat aborts (receivedIn before)
  have kept := congrArg Buffer.contents
    (uploads.written.trans (congrArg (Buffer.write (.ofContents contents)) read))
  rw [Buffer.contents_write_ofContents] at kept
  exact congrArg some kept

theorem Call.settled_expeditedDownload {node : UInt8} {index : UInt16} {subindex : UInt8}
    {data : List UInt8}
    (requestable : (Call.expeditedDownload node index subindex data).Requestable)
    (config : Config) (transport : σ) :
    let run : Run σ ε (Answer ε) :=
      Call.run config transport (.expeditedDownload node index subindex data)
    ∀ reply ∈ receivedIn run.journal, reply.said? node ≠ none →
      run.answer.result = .ok .done
      ∧ ∃ before, deedsIn run.journal = before ++ [.received reply]
        ∧ ∀ earlier ∈ receivedIn before, earlier.said? node = none := by
  intro run reply member speaks
  let download : Transfer ε Unit Unit :=
    .expeditedDownload config.transferRounds node index subindex data
  have plays : (Call.expeditedDownload node index subindex data).Plays config download :=
    .expeditedDownload node index subindex data
  obtain ⟨_, _, request, opens, _⟩ | ⟨unrequestable, _⟩ := plays.request_cases
  · let filtering : Run σ ε Unit :=
      Exchange.setNodeFilter (.transferUnfiltered node) node transport
    have unheard : receivedIn (deedsIn filtering.journal) = [] := by
      rw [receivedIn_deedsIn, ← receivedIn_trafficIn, Exchange.trafficIn_setNodeFilter]
      rfl
    rw [← receivedIn_deedsIn] at member
    obtain ⟨_, deeds, _⟩ | ⟨traffic, deeds, course⟩ := download.deedsIn_run opens transport
    · rw [show deedsIn run.journal = deedsIn filtering.journal ++ _ from deeds,
        receivedIn_append, unheard] at member
      cases member
    · rw [show deedsIn run.journal = deedsIn filtering.journal ++ _ from deeds,
        receivedIn_append, unheard] at member
      obtain ⟨settled, before, rfl, unsaid⟩ :=
        course.settled_expeditedDownload reply member speaks
      refine ⟨?_, deedsIn filtering.journal ++ .sent request :: before, ?_, ?_⟩
      · exact congrArg (Except.map fun () => Value.done) settled
      · rw [show deedsIn run.journal = deedsIn filtering.journal ++ _ from deeds]
        simp
      · intro earlier inside
        rw [receivedIn_append, unheard] at inside
        exact unsaid earlier inside
  · exact absurd requestable unrequestable

theorem Call.abortsExactly_of_requestable {call : Call} (requestable : call.Requestable)
    (config : Config) (transport : σ) :
    AbortsExactly (ε := ε) call (call.run config transport) where
  heeds heeded reply member aborts := by
    have concludes := call.concludes (ε := ε) requestable config transport
    rw [← receivedIn_deedsIn] at member
    rw [← call.conduct_node] at aborts ⊢
    have heeds : call.conduct.heeds = true := by
      cases call with
      | expeditedDownload node index subindex data =>
          exact absurd rfl (heeded node index subindex data)
      | _ => rfl
    exact concludes.givenUpBy heeds member aborts
  only code text aborted := by
    have concludes := call.concludes (ε := ε) requestable config transport
    obtain ⟨_, givenUp⟩ | ⟨refusal, reply, refuses, givesUp⟩ := concludes.givenUp_cases aborted
    · rw [call.conduct_node] at givenUp
      exact .inl givenUp
    · cases call with
      | blockDownload node index subindex data =>
          obtain rfl := Option.some.inj refuses
          exact .inr ⟨node, index, subindex, data, reply, rfl, givesUp⟩
      | _ => cases refuses
  refuses := by
    rintro node index subindex data rfl reply
    exact Call.offender_eq_some_iff requestable config transport reply
  keeps := by
    rintro node index subindex contents rfl before reply last aborts
    exact Call.kept_of_aborts requestable index subindex contents config transport last aborts
  accepts := by
    rintro node index subindex data rfl
    refine ⟨fun code text aborted => ?_,
      Call.settled_expeditedDownload requestable config transport⟩
    have concludes := Call.concludes (ε := ε) requestable config transport
    obtain ⟨heeds, _⟩ | ⟨_, _, refuses, _⟩ := concludes.givenUp_cases aborted
    · cases heeds
    · cases refuses

theorem Call.abortsExactly_of_not_requestable {call : Call}
    (unrequestable : ¬ call.Requestable) (config : Config) (transport : σ) :
    AbortsExactly (ε := ε) call (call.run config transport) := by
  obtain ⟨cause, buffer, rejects⟩ :=
    Call.run_of_not_requestable (ε := ε) unrequestable config transport
  have malformed : (call.run config transport : Run σ ε (Answer ε)).answer.result
      = .error (.malformed cause) := by
    rw [rejects, answer_rejecting]
  apply abortsExactly_of_unheard malformed
  rw [rejects, ← receivedIn_trafficIn, trafficIn_rejecting]
  rfl

end Sdo

/-- A call ends as soon as the node gives it up: the failure tells the code and the text of
that message, nothing more is sent or received, and what an upload has read stays in its
buffer.  Nothing else makes a call say that it was given up, but for a block download that is
asked for a block that there cannot be: there the last message sent tells the node so.
Expedited downloads alone take even such a message of the node for success.  A node gives a
call up with a service data reply of eight bytes that has specifier 4. -/
theorem abortsExactly [Transport σ ε] :
    (∀ (config : Config) (call : Call) (transport : σ),
      AbortsExactly (ε := ε) call (call.run config transport))
    ∧ (∀ (node : UInt8) (length : Nat) (heard : List Message) (reply : Message),
      offender node length heard = some reply → reply ∈ heard ∧ Misasks node reply)
    ∧ ∀ (node : UInt8) (message : Message), message.Coherent →
      (message.said? node = some .abort
        ↔ message.IsReplyOf node ∧ message.octets.first.toNat / 32 = 4)
      ∧ (message.said? node ≠ none ↔ message.IsReplyOf node) := by
  refine ⟨fun config call transport => ?_, fun _ _ _ _ => misasks_of_offender,
    fun _ _ coherent => ⟨Message.said?_eq_abort_iff coherent, Message.said?_ne_none_iff coherent⟩⟩
  by_cases requestable : call.Requestable
  · exact Call.abortsExactly_of_requestable requestable config transport
  · exact Call.abortsExactly_of_not_requestable requestable config transport

/-- Asked for a block of 128 segments, a download sends its refusal and no segment. -/
example :
    let link := PlainLink.replaying 5 [[0xA4, 0x00, 0x20, 1, 128]]
    let run := Call.run {} link (.blockDownload 5 0x2000 1 [1, 2, 3])
    offender 5 3 (receivedIn run.journal) = (receivedIn run.journal)[0]?
      ∧ (sentIn run.journal).length = 2
      ∧ (sentIn run.journal)[1]? = some (refusal 5 0x2000 1) := by
  decide +kernel

end CanOpen

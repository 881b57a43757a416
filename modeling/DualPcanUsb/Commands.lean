/-
Synchronous commands of one forwarder, side by side.

Every call writes its command into the same `cmd_buf`, sends it from there, and a responsive
one receives its reply there. No lock is taken, so a call sends its own bytes and returns its
own reply as long as nobody writes the buffer between the steps, and nobody else waits for a
reply at the endpoint. The asynchronous commands take a buffer of their own.
-/
import DualPcanUsb.CommandBuffer
import DualPcanUsb.Lib.SharedCell
import DualPcanUsb.Lib.Runs

set_option autoImplicit false

namespace DualPcanUsb

/-! ## Calls -/

/-- A reply of the device, as long as a command. -/
abbrev Reply := Vector u8 PCAN_CMD_TOTAL_LEN

/-- What a call does next. `pcan_oneway_command` starts at `oneway_check`;
`pcan_responsive_command` does so behind its own check and `atomic_inc`. -/
inductive CmdPhase
  | check
  | inc_pending_ops
  | oneway_check
  | oneway_inc_pending_ops
  | fill
  | send
  | oneway_dec_pending_ops (err : Int)
  | recv
  | copy_result (err : Int)
  | dec_pending_ops (err : Int)
  | returned (err : Int)
deriving DecidableEq, Repr

/-- A call with the bytes that went out for it, the device's reply to them, and what was
copied to its `result`. -/
structure CmdCall where
  responsive : Bool
  holder : CmdHolder
  phase : CmdPhase
  sent : Option (List u8)
  reply : Option Reply
  result : Option (List u8)

def CmdCall.start (responsive : Bool) (holder : CmdHolder) : CmdCall :=
  { responsive := responsive
    holder := holder
    phase := if responsive then .check else .oneway_check
    sent := none
    reply := none
    result := none }

/-- The forwarder as far as commands go; `replies` wait at the endpoint, oldest first. -/
structure CmdState where
  stage : Int
  pending_ops : Int
  cmd_buf : CmdBuf
  replies : List Reply
  calls : List CmdCall

/-- One step of a call. `outcome` is what `usb_bulk_msg` returns, `reply` what the device
makes of the bytes it gets. -/
def CmdCall.operate (call : CmdCall) (outcome : Int) (reply : Option Reply) (st : CmdState) :
    Option (CmdCall × CmdState) :=
  match call.phase with
  | .check =>
    some ({ call with
      phase := if st.stage < PCAN_USB_STAGE_CONNECTED then .returned (-ENOTCONN) else .inc_pending_ops }, st)
  | .inc_pending_ops =>
    -- `cmd_holder->args = NULL`
    some ({ call with phase := .oneway_check, holder := { call.holder with args := none } },
      { st with pending_ops := st.pending_ops + 1 })
  | .oneway_check =>
    some ({ call with
      phase := if st.stage < PCAN_USB_STAGE_CONNECTED then
          if call.responsive then .dec_pending_ops (-ENOTCONN) else .returned (-ENOTCONN)
        else .oneway_inc_pending_ops }, st)
  | .oneway_inc_pending_ops =>
    some ({ call with phase := .fill }, { st with pending_ops := st.pending_ops + 1 })
  | .fill =>
    some ({ call with phase := .send },
      { st with
        cmd_buf := pcan_fill_command_buffer call.holder.functionality call.holder.number
          call.holder.args PCAN_CMD_ARGS_LEN st.cmd_buf })
  | .send =>
    some ({ call with
        phase := .oneway_dec_pending_ops outcome
        sent := some (st.cmd_buf.bytes PCAN_CMD_TOTAL_LEN)
        reply := reply },
      { st with replies := st.replies ++ reply.toList })
  | .oneway_dec_pending_ops err =>
    some ({ call with
        phase := if call.responsive then if err < 0 then .dec_pending_ops err else .recv
          else .returned err },
      { st with pending_ops := st.pending_ops - 1 })
  | .recv =>
    if outcome < 0 then some ({ call with phase := .dec_pending_ops outcome }, st)
    else
      match st.replies with
      | [] => none
      | received :: replies =>
        some ({ call with phase := .copy_result outcome },
          { st with cmd_buf := st.cmd_buf.memcpy 0 received.toList, replies := replies })
  | .copy_result err =>
    some ({ call with
      phase := .dec_pending_ops err
      result := if call.holder.has_result then
          some ((st.cmd_buf.bytes PCAN_CMD_TOTAL_LEN).drop PCAN_CMD_ARG_INDEX_ARG)
        else none }, st)
  | .dec_pending_ops err =>
    some ({ call with phase := .returned err }, { st with pending_ops := st.pending_ops - 1 })
  | .returned _ => none

inductive CmdAction
  | enter (responsive : Bool) (holder : CmdHolder)
  | advance (i : ℕ) (outcome : Int) (reply : Option Reply)
  | elsewhere (stage : Int)

/-- One step: a new call, a step of a call, or the stage changing under them. No caller
passes arguments to `pcan_responsive_command`. -/
def CmdState.step (st : CmdState) : CmdAction → Option CmdState
  | .enter responsive holder =>
    if responsive = true ∧ holder.args.isSome then none
    else some { st with calls := st.calls ++ [CmdCall.start responsive holder] }
  | .advance i outcome reply =>
    match st.calls[i]? with
    | some call =>
      (call.operate outcome reply st).map fun (call, st) =>
        { st with calls := st.calls.set i call }
    | none => none
  | .elsewhere stage => some { st with stage := stage }

/-! ## What a call gets -/

/-- A successful call: its command went out, and what it returns, if anything, is the
reply to it. -/
structure CmdCall.Succeeded (call : CmdCall) : Prop where
  sent : call.sent.isSome
  result : call.responsive → call.holder.has_result → ∃ reply, call.reply = some reply
    ∧ call.result = some (reply.toList.drop PCAN_CMD_ARG_INDEX_ARG)

/-- The bytes that went out for a call are its own, and so is what a successful one
returned. -/
structure CmdCall.Unmixed (call : CmdCall) : Prop where
  sent_own : ∀ bytes, call.sent = some bytes → bytes = call.holder.wire
  returned_own : ∀ err, call.phase = .returned err → 0 ≤ err → call.Succeeded

/-- Between filling the buffer and sending it, or receiving into it and copying the
result. -/
def CmdCall.UsesBuf (call : CmdCall) : Prop :=
  match call.phase with
  | .send | .copy_result _ => True
  | _ => False

instance (call : CmdCall) : Decidable call.UsesBuf := by
  unfold CmdCall.UsesBuf
  split <;> infer_instance

/-- Between sending and receiving. -/
def CmdCall.AwaitsReply (call : CmdCall) : Prop :=
  match call.phase with
  | .oneway_dec_pending_ops err => call.responsive ∧ 0 ≤ err
  | .recv => True
  | _ => False

instance (call : CmdCall) : Decidable call.AwaitsReply := by
  unfold CmdCall.AwaitsReply
  split <;> infer_instance

/-- What is to hold before a step of call `i`: the buffer is written while no other call
uses it; a request that waits for a reply or gets one is sent while no other call waits for
one and none is left at the endpoint; and a reply is taken while no other call waits. -/
def CmdState.Separate (st : CmdState) (i : ℕ) (reply : Option Reply) (call : CmdCall) : Prop :=
  match call.phase with
  | .fill => SharedCell.Alone (fun call => ¬ call.UsesBuf) st.calls i
  | .send => (call.responsive ∨ reply.isSome) →
      SharedCell.Alone (fun call => ¬ call.AwaitsReply) st.calls i ∧ st.replies = []
  | .recv => SharedCell.Alone (fun call => ¬ call.UsesBuf) st.calls i
      ∧ SharedCell.Alone (fun call => ¬ call.AwaitsReply) st.calls i
  | _ => True

instance (st : CmdState) (i : ℕ) (reply : Option Reply) (call : CmdCall) :
    Decidable (st.Separate i reply call) := by
  unfold CmdState.Separate
  split <;> infer_instance

def CmdState.StepsSeparate (st : CmdState) : CmdAction → Prop
  | .advance i _ reply => ∀ call ∈ st.calls[i]?, st.Separate i reply call
  | _ => True

instance (st : CmdState) (action : CmdAction) : Decidable (st.StepsSeparate action) :=
  match action with
  | .advance i _ reply =>
    inferInstanceAs (Decidable (∀ call ∈ st.calls[i]?, st.Separate i reply call))
  | .enter .. | .elsewhere _ => .isTrue trivial

/-! ## What a call relies on -/

/-- About the buffer, with what is known of the call by itself. -/
def CmdCall.Relies (call : CmdCall) (cmd_buf : CmdBuf) : Prop :=
  (∀ bytes, call.sent = some bytes → bytes = call.holder.wire) ∧
    match call.phase with
    | .check | .inc_pending_ops => call.sent = none
    | .oneway_check | .oneway_inc_pending_ops | .fill => True
    | .send => cmd_buf.bytes PCAN_CMD_TOTAL_LEN = call.holder.wire
    | .oneway_dec_pending_ops _ | .recv => call.sent.isSome
    | .copy_result _ => call.sent.isSome ∧ ∃ reply, call.reply = some reply
        ∧ cmd_buf.bytes PCAN_CMD_TOTAL_LEN = reply.toList
    | .dec_pending_ops err | .returned err => 0 ≤ err → call.Succeeded

/-- About the endpoint. -/
def CmdCall.Expects (call : CmdCall) (replies : List Reply) : Prop :=
  call.AwaitsReply → replies = call.reply.toList

/-- Outside its use of `cmd_buf` a call relies on nothing there. -/
theorem not_usesBuf_outside (call : CmdCall) (h : ¬ call.UsesBuf) :
    SharedCell.Outside CmdCall.Relies call := by
  obtain ⟨responsive, holder, phase, sent, reply, result⟩ := call
  intro buf buf'
  cases phase
  case send | copy_result => exact absurd trivial h
  all_goals exact id

theorem not_awaitsReply_outside (call : CmdCall) (h : ¬ call.AwaitsReply) :
    SharedCell.Outside CmdCall.Expects call :=
  fun _ _ _ hawaits => absurd hawaits h

structure CmdInv (st : CmdState) : Prop where
  cmd_buf : SharedCell.Holds CmdCall.Relies st.cmd_buf st.calls
  replies : SharedCell.Holds CmdCall.Expects st.replies st.calls

/-- A reply overwrites the whole command. -/
theorem memcpy_reply_bytes (buf : CmdBuf) (reply : Reply) :
    (buf.memcpy 0 reply.toList).bytes PCAN_CMD_TOTAL_LEN = reply.toList := by
  refine List.ext_getElem? fun i => ?_
  rw [CmdBuf.bytes, List.getElem?_map]
  by_cases hi : i < PCAN_CMD_TOTAL_LEN
  · have hlen : i < reply.toList.length := by rwa [Vector.length_toList]
    rw [List.getElem?_range hi, Option.map_some, CmdBuf.memcpy, if_pos ⟨i.zero_le, by omega⟩,
      Nat.sub_zero, List.getD_eq_getElem _ _ hlen, List.getElem?_eq_getElem hlen]
  · rw [List.getElem?_eq_none (by simpa using hi),
      List.getElem?_eq_none (by rw [Vector.length_toList]; omega), Option.map_none]

/-! ## Steps of a call -/

/-- A step that touches neither the buffer nor the endpoint. -/
theorem operate_aside {st st' : CmdState} {call call' : CmdCall} {outcome : Int}
    {reply : Option Reply} (hrelies : call.Relies st.cmd_buf) (hexpects : call.Expects st.replies)
    (hphase : call.phase ≠ .fill ∧ call.phase ≠ .send ∧ call.phase ≠ .recv)
    (h : call.operate outcome reply st = some (call', st')) :
    st'.cmd_buf = st.cmd_buf ∧ st'.replies = st.replies ∧ st'.calls = st.calls
      ∧ call'.Relies st.cmd_buf ∧ call'.Expects st.replies := by
  obtain ⟨responsive, holder, phase, sent, reply, result⟩ := call
  obtain ⟨hsent, hown⟩ := hrelies
  cases phase with
  | fill => exact absurd rfl hphase.1
  | send => exact absurd rfl hphase.2.1
  | recv => exact absurd rfl hphase.2.2
  | returned err => cases h
  | check =>
    by_cases hstage : st.stage < PCAN_USB_STAGE_CONNECTED
    · simp only [CmdCall.operate, if_pos hstage, Option.some.injEq, Prod.mk.injEq] at h
      obtain ⟨rfl, rfl⟩ := h
      exact ⟨rfl, rfl, rfl, ⟨hsent, fun herr => absurd herr (by decide)⟩,
        fun hawaits => hawaits.elim⟩
    · simp only [CmdCall.operate, if_neg hstage, Option.some.injEq, Prod.mk.injEq] at h
      obtain ⟨rfl, rfl⟩ := h
      exact ⟨rfl, rfl, rfl, ⟨hsent, hown⟩, fun hawaits => hawaits.elim⟩
  | inc_pending_ops =>
    obtain ⟨rfl, rfl⟩ := Prod.mk.inj (Option.some.inj h)
    refine ⟨rfl, rfl, rfl, ⟨fun bytes hbytes => ?_, trivial⟩, fun hawaits => hawaits.elim⟩
    -- nothing has gone out for the call yet
    rw [show sent = none from hown] at hbytes
    cases hbytes
  | oneway_check =>
    by_cases hstage : st.stage < PCAN_USB_STAGE_CONNECTED
    · simp only [CmdCall.operate, if_pos hstage, Option.some.injEq, Prod.mk.injEq] at h
      obtain ⟨rfl, rfl⟩ := h
      cases responsive
      all_goals
        exact ⟨rfl, rfl, rfl, ⟨hsent, fun herr => absurd herr (by decide)⟩,
          fun hawaits => hawaits.elim⟩
    · simp only [CmdCall.operate, if_neg hstage, Option.some.injEq, Prod.mk.injEq] at h
      obtain ⟨rfl, rfl⟩ := h
      exact ⟨rfl, rfl, rfl, ⟨hsent, trivial⟩, fun hawaits => hawaits.elim⟩
  | oneway_inc_pending_ops =>
    obtain ⟨rfl, rfl⟩ := Prod.mk.inj (Option.some.inj h)
    exact ⟨rfl, rfl, rfl, ⟨hsent, trivial⟩, fun hawaits => hawaits.elim⟩
  | oneway_dec_pending_ops err =>
    cases responsive with
    | false =>
      obtain ⟨rfl, rfl⟩ := Prod.mk.inj (Option.some.inj h)
      exact ⟨rfl, rfl, rfl, ⟨hsent, fun _ => ⟨hown, fun h => by cases h⟩⟩,
        fun hawaits => hawaits.elim⟩
    | true =>
      by_cases herr : err < 0
      · simp only [CmdCall.operate, if_pos herr, Option.some.injEq, Prod.mk.injEq] at h
        obtain ⟨rfl, rfl⟩ := h
        exact ⟨rfl, rfl, rfl, ⟨hsent, fun hnonneg => absurd herr (not_lt.mpr hnonneg)⟩,
          fun hawaits => hawaits.elim⟩
      · simp only [CmdCall.operate, if_neg herr, Option.some.injEq, Prod.mk.injEq] at h
        obtain ⟨rfl, rfl⟩ := h
        exact ⟨rfl, rfl, rfl, ⟨hsent, hown⟩, fun _ => hexpects ⟨rfl, not_lt.mp herr⟩⟩
  | copy_result err =>
    obtain ⟨rfl, rfl⟩ := Prod.mk.inj (Option.some.inj h)
    obtain ⟨hout, received, hreply, hbytes⟩ := hown
    refine ⟨rfl, rfl, rfl, ⟨hsent, fun _ => ⟨hout, fun _ hresult => ⟨received, hreply, ?_⟩⟩⟩,
      fun hawaits => hawaits.elim⟩
    dsimp only at hresult ⊢
    rw [if_pos hresult, hbytes]
  | dec_pending_ops err =>
    obtain ⟨rfl, rfl⟩ := Prod.mk.inj (Option.some.inj h)
    exact ⟨rfl, rfl, rfl, ⟨hsent, fun hnonneg => ⟨(hown hnonneg).sent, (hown hnonneg).result⟩⟩,
      fun hawaits => hawaits.elim⟩

section

variable {st st' : CmdState} {i : ℕ} {call call' : CmdCall} {outcome : Int} {reply : Option Reply}

/-- A call that fills the buffer has its own command there. -/
theorem fill_inv (hinv : CmdInv st) (hphase : call.phase = .fill)
    (hseparate : st.Separate i reply call) (hrelies : call.Relies st.cmd_buf)
    (h : call.operate outcome reply st = some (call', st')) :
    CmdInv { st' with calls := st'.calls.set i call' } := by
  rw [CmdCall.operate, hphase] at h
  obtain ⟨rfl, rfl⟩ := Prod.mk.inj (Option.some.inj h)
  rw [CmdState.Separate, hphase] at hseparate
  refine ⟨?_, hinv.replies.set i fun hawaits => hawaits.elim⟩
  exact hinv.cmd_buf.store not_usesBuf_outside hseparate
    ⟨hrelies.1, fill_command_buffer_bytes call.holder st.cmd_buf⟩

/-- What is sent is what was filled in, and the reply it calls for is the only one. -/
theorem send_inv (hinv : CmdInv st) (hphase : call.phase = .send)
    (hseparate : st.Separate i reply call) (hrelies : call.Relies st.cmd_buf)
    (h : call.operate outcome reply st = some (call', st')) :
    CmdInv { st' with calls := st'.calls.set i call' } := by
  rw [CmdCall.operate, hphase] at h
  obtain ⟨rfl, rfl⟩ := Prod.mk.inj (Option.some.inj h)
  rw [CmdState.Separate, hphase] at hseparate
  rw [CmdCall.Relies, hphase] at hrelies
  refine ⟨hinv.cmd_buf.set i ⟨fun bytes hbytes => ?_, rfl⟩, ?_⟩
  · rw [← Option.some.inj hbytes, hrelies.2]
  · by_cases hanswer : call.responsive ∨ reply.isSome
    · obtain ⟨halone, hnone⟩ := hseparate hanswer
      refine hinv.replies.store not_awaitsReply_outside halone fun _ => ?_
      dsimp only
      rw [hnone, List.nil_append]
    · -- a one-way command that gets no reply leaves the endpoint as it is
      obtain ⟨honeway, hsilent⟩ := not_or.mp hanswer
      obtain rfl : reply = none := Option.not_isSome_iff_eq_none.mp hsilent
      dsimp only [Option.toList_none]
      rw [List.append_nil]
      exact hinv.replies.set i fun hawaits => absurd hawaits.1 honeway

/-- The one reply at the endpoint is the call's own. -/
theorem recv_inv (hinv : CmdInv st) (hphase : call.phase = .recv)
    (hseparate : st.Separate i reply call) (hrelies : call.Relies st.cmd_buf)
    (hexpects : call.Expects st.replies)
    (h : call.operate outcome reply st = some (call', st')) :
    CmdInv { st' with calls := st'.calls.set i call' } := by
  rw [CmdCall.operate, hphase] at h
  dsimp only at h
  rw [CmdState.Separate, hphase] at hseparate
  rw [CmdCall.Relies, hphase] at hrelies
  split at h
  · rename_i herr
    obtain ⟨rfl, rfl⟩ := Prod.mk.inj (Option.some.inj h)
    exact ⟨hinv.cmd_buf.set i ⟨hrelies.1, fun hnonneg => absurd herr (not_lt.mpr hnonneg)⟩,
      hinv.replies.set i fun hawaits => hawaits.elim⟩
  have hawaits : call.AwaitsReply := by
    rw [CmdCall.AwaitsReply, hphase]
    trivial
  have hown := hexpects hawaits
  split at h
  · cases h
  rename_i received rest heq
  obtain ⟨rfl, rfl⟩ := Prod.mk.inj (Option.some.inj h)
  rw [heq] at hown
  have hreply : call.reply = some received := by
    cases hrep : call.reply with
    | none => rw [hrep] at hown; cases hown
    | some reply => rw [hrep] at hown; exact congrArg some (List.cons.inj hown).1.symm
  refine ⟨?_, hinv.replies.store not_awaitsReply_outside hseparate.2 fun hawaits => hawaits.elim⟩
  exact hinv.cmd_buf.store not_usesBuf_outside hseparate.1
    ⟨hrelies.1, hrelies.2, received, hreply, memcpy_reply_bytes st.cmd_buf received⟩

/-- A step of a call keeps what each of the others relies on. -/
theorem advance_inv (hinv : CmdInv st) (hcall : st.calls[i]? = some call)
    (hseparate : st.Separate i reply call) (h : call.operate outcome reply st = some (call', st')) :
    CmdInv { st' with calls := st'.calls.set i call' } := by
  have hmem := List.mem_of_getElem? hcall
  have hrelies := hinv.cmd_buf call hmem
  have hexpects := hinv.replies call hmem
  by_cases hfill : call.phase = .fill
  · exact fill_inv hinv hfill hseparate hrelies h
  by_cases hsend : call.phase = .send
  · exact send_inv hinv hsend hseparate hrelies h
  by_cases hrecv : call.phase = .recv
  · exact recv_inv hinv hrecv hseparate hrelies hexpects h
  obtain ⟨hbuf', hreplies', hcalls, hnew, hnew'⟩ :=
    operate_aside hrelies hexpects ⟨hfill, hsend, hrecv⟩ h
  refine ⟨?_, ?_⟩
  · dsimp only
    rw [hbuf', hcalls]
    exact hinv.cmd_buf.set i hnew
  · dsimp only
    rw [hreplies', hcalls]
    exact hinv.replies.set i hnew'

end

/-- Every action keeps what each call relies on, if the uses of the buffer stay apart. -/
theorem cmdInv_step (st : CmdState) (action : CmdAction) (st' : CmdState) (hinv : CmdInv st)
    (hseparate : st.StepsSeparate action) (hstep : st.step action = some st') : CmdInv st' := by
  cases action with
  | enter responsive holder =>
    rw [CmdState.step] at hstep
    obtain ⟨-, heq⟩ := Option.ite_none_left_eq_some.mp hstep
    obtain rfl := Option.some.inj heq
    refine ⟨hinv.cmd_buf.append ⟨fun _ h => (by cases h), ?_⟩, hinv.replies.append ?_⟩
    · cases responsive
      · trivial
      · rfl
    · cases responsive <;> exact fun hawaits => hawaits.elim
  | advance i outcome reply =>
    rw [CmdState.step] at hstep
    split at hstep
    · rename_i call hcall
      obtain ⟨⟨call', st₁⟩, hoperate, rfl⟩ := Option.map_eq_some_iff.mp hstep
      exact advance_inv hinv hcall (hseparate call hcall) hoperate
    · cases hstep
  | elsewhere stage =>
    obtain rfl := Option.some.inj hstep
    exact ⟨hinv.cmd_buf, hinv.replies⟩

/-- Commands whose steps stay separate do not mix: what goes out for a call is its own
command, and what a successful responsive one returns is the reply to it. -/
theorem commands_unmixed {st₀ st : CmdState} {actions : List CmdAction} (hnone : st₀.calls = [])
    (hseparate : Runs.Along CmdState.step CmdState.StepsSeparate st₀ actions)
    (hrun : Runs.run CmdState.step st₀ actions = some st) :
    ∀ call ∈ st.calls, call.Unmixed := by
  have hinit : CmdInv st₀ :=
    ⟨by rw [hnone]; exact SharedCell.holds_nil _, by rw [hnone]; exact SharedCell.holds_nil _⟩
  have hinv := Runs.run_invariant_along CmdState.step cmdInv_step hinit hseparate hrun
  intro call hmem
  obtain ⟨hsent, hown⟩ := hinv.cmd_buf call hmem
  refine ⟨hsent, fun err hphase => ?_⟩
  rw [hphase] at hown
  exact hown

/-- A connected device, before any command. -/
def cmd_start : CmdState :=
  { stage := PCAN_USB_STAGE_CONNECTED
    pending_ops := 0
    cmd_buf := fun _ => 0xA5
    replies := []
    calls := [] }

/-- The serial number is asked for between two steps of a command that has not filled the
buffer yet. -/
def commands_in_turn : List CmdAction :=
  [.enter false (CmdHolder.set_bus 1), .advance 0 0 none, .advance 0 0 none,
    .enter true CMD_HOLDER_OF_GET_SERIAL_NUMBER, .advance 1 0 none, .advance 1 0 none,
    .advance 1 0 none, .advance 1 0 none, .advance 1 0 none,
    .advance 1 0 (some (Vector.replicate PCAN_CMD_TOTAL_LEN 7)), .advance 1 0 none,
    .advance 1 0 none, .advance 1 0 none, .advance 0 0 none, .advance 0 0 none,
    .advance 0 0 none, .advance 1 0 none]

theorem commands_unmixed_in_turn :
    ∃ st, Runs.run CmdState.step cmd_start commands_in_turn = some st
      ∧ ∀ call ∈ st.calls, call.Unmixed := by
  have hsome : (Runs.run CmdState.step cmd_start commands_in_turn).isSome = true := by decide
  obtain ⟨st, hrun⟩ := Option.isSome_iff_exists.mp hsome
  exact ⟨st, hrun, commands_unmixed rfl (by decide) hrun⟩

/-- A release switches the bus off while an open of the network interface sets the voltage:
both fill the buffer, then both send. -/
def commands_overlapping : List CmdAction :=
  [.enter false (CmdHolder.set_bus 0), .enter false (CmdHolder.set_ext_vcc 0),
    .advance 0 0 none, .advance 0 0 none, .advance 0 0 none, .advance 1 0 none,
    .advance 1 0 none, .advance 1 0 none, .advance 0 0 none, .advance 1 0 none]

/-- The release sends the other command. -/
theorem overlapping_command_sends_other :
    ∃ st call, Runs.run CmdState.step cmd_start commands_overlapping = some st
      ∧ st.calls[0]? = some call
      ∧ call.sent = some (CmdHolder.set_ext_vcc 0).wire
      ∧ ¬ call.Unmixed := by
  have hsome : (Runs.run CmdState.step cmd_start commands_overlapping).isSome = true := by decide
  obtain ⟨st, hrun⟩ := Option.isSome_iff_exists.mp hsome
  have hcall : ((Runs.run CmdState.step cmd_start commands_overlapping).bind
      fun st => st.calls[0]?.map fun call => (call.sent, call.holder))
      = some (some (CmdHolder.set_ext_vcc 0).wire, CmdHolder.set_bus 0) := by decide
  rw [hrun, Option.bind_some] at hcall
  obtain ⟨call, hcall, heq⟩ := Option.map_eq_some_iff.mp hcall
  obtain ⟨hsent, hholder⟩ := Prod.mk.inj heq
  refine ⟨st, call, hrun, hcall, hsent, fun h => ?_⟩
  have hown := h.sent_own _ hsent
  rw [hholder] at hown
  exact absurd hown (by decide)

end DualPcanUsb

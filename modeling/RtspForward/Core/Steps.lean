import RtspForward.Core.Threads
import RtspForward.Core.SessionEffects

/-!
# The transitions of the two threads

`Step` lists everything a step can do, with what the step function has checked on the way;
every invariant of the later modules is a case analysis on it.
-/
namespace RtspForward.System

/-- The transitions of the system. -/
inductive Step (s : System) : Label → System → Prop
  | broadcast {packet} : s.stream.pc = .idle → Step s (.broadcast packet) (s.broadcast packet)
  | load {now sid todo session} : s.stream.pc = .next → s.stream.todo = sid :: todo →
      s.server.heap sid = some session → Step s (.load now) (s.load sid todo session now)
  | sendTo {o sid endpoint} : s.stream.pc = .udp sid endpoint →
      Step s (.sendTo o) (s.sendTo sid endpoint o)
  | sendV {o sid fd session} : s.stream.pc = .tcp sid fd → s.server.heap sid = some session →
      answerable (s.broken sid) (RtpForwarder.forwardTcp session.conn s.stream.packet o).1.call o →
      Step s (.sendV o) (s.sendV sid session (RtpForwarder.forwardTcp session.conn s.stream.packet o))
  | recordDrop {sid session} : s.stream.pc = .failed sid → s.server.heap sid = some session →
      Step s .recordDrop (s.recordDrop sid session)
  | recordSuccess {sid session} : s.stream.pc = .sent sid → s.server.heap sid = some session →
      Step s .recordSuccess (s.recordSuccess sid session)
  | streamModify {sid fd} : s.stream.pc = .register sid fd → Step s .streamModify (s.streamModify fd)
  | finish : s.stream.pc = .next → s.stream.todo = [] → Step s .finish s.finish
  | wait {results} : s.loop.pc = .idle → s.loop.handlers = [] → s.loop.batch = [] →
      s.ready results = true → Step s (.wait results) (s.wait results)
  /-- No callback is found, or `CheckTimeouts` has nothing to read from the timer. -/
  | skip {accept expired e batch} : s.loop.pc = .idle → s.loop.handlers = [] →
      s.loop.batch = e :: batch →
      s.server.callbacks e.fd = none ∨
        (s.server.callbacks e.fd = some .checkTimeouts ∧ expired = none) →
      Step s (.dispatch accept expired) (s.takeEntry batch)
  | accept {accept expired e batch res} : s.loop.pc = .idle → s.loop.handlers = [] →
      s.loop.batch = e :: batch → s.server.callbacks e.fd = some .onNewConnection →
      s.server.onNewConnection accept = some res →
      Step s (.dispatch accept expired) ({ s.takeEntry batch with server := res.1 }.release res.2)
  | sweep {accept now e batch} : s.loop.pc = .idle → s.loop.handlers = [] →
      s.loop.batch = e :: batch → s.server.callbacks e.fd = some .checkTimeouts →
      Step s (.dispatch accept (some now))
        ({ s.takeEntry batch with server := (s.server.checkTimeouts now).1 }.release
          (s.server.checkTimeouts now).2)
  | enter {accept expired e batch} : s.loop.pc = .idle → s.loop.handlers = [] →
      s.loop.batch = e :: batch → s.server.callbacks e.fd = some .client →
      Step s (.dispatch accept expired)
        { s with loop := { s.loop with batch := batch, fd := e.fd, handlers := handlersOf e } }
  /-- The handler finds no session. -/
  | absent {recv h handlers} : s.loop.pc = .idle → s.loop.handlers = h :: handlers →
      Step s (.handle recv) (s.takeHandler handlers)
  /-- `OnError`, or a session whose connection is closed. -/
  | drop {recv h handlers held} : s.loop.pc = .idle → s.loop.handlers = h :: handlers →
      (∀ sid ∈ held, s.server.sessions[s.loop.fd]? = some sid) →
      Step s (.handle recv) ((s.takeHandler handlers).closeAndLeave held)
  /-- `Recv` has returned nothing or an error. -/
  | hangUp {recv h handlers sid session} : s.loop.pc = .idle → s.loop.handlers = h :: handlers →
      s.server.sessions[s.loop.fd]? = some sid → s.server.heap sid = some session →
      Step s (.handle recv) (((s.takeHandler handlers).update sid
        { session with conn := (session.conn.recv recv).1 }).closeAndLeave [sid])
  | receive {recv h handlers sid session} : s.loop.pc = .idle → s.loop.handlers = h :: handlers →
      s.server.sessions[s.loop.fd]? = some sid → s.server.heap sid = some session →
      Step s (.handle recv) (((s.takeHandler handlers).update sid
        { session with conn := (session.conn.recv recv).1 }).goto (.reading sid))
  | writable {recv h handlers sid session} : s.loop.pc = .idle → s.loop.handlers = h :: handlers →
      s.server.sessions[s.loop.fd]? = some sid → s.server.heap sid = some session →
      Step s (.handle recv) ((s.takeHandler handlers).goto (.flushing sid))
  | readDone {env beyond sid session} : s.loop.pc = .reading sid →
      s.server.heap sid = some session → RtspForward.turn session.conn.readBuffer = .wait →
      Step s (.turn env beyond) (s.leave sid)
  | tooLarge {env beyond sid session} : s.loop.pc = .reading sid →
      s.server.heap sid = some session → RtspForward.turn session.conn.readBuffer = .tooLarge →
      Step s (.turn env beyond) (s.closeAndLeave [sid])
  | skipFrame {env beyond sid session total} : s.loop.pc = .reading sid →
      s.server.heap sid = some session →
      RtspForward.turn session.conn.readBuffer = .skip total →
      Step s (.turn env beyond) (s.update sid (session.consume total))
  | request {env beyond sid session requestLen h kernel} : s.loop.pc = .reading sid →
      s.server.heap sid = some session →
      RtspForward.turn session.conn.readBuffer = .request requestLen →
      h = session.processData (session.conn.readBuffer.rawView requestLen beyond) env →
      answerable (s.broken sid) (h.reply.bind fun reply => reply.result.call) env.reply →
      s.server.kernel.events h.fdEvents = some kernel →
      Step s (.turn env beyond) (s.handled sid requestLen h kernel)
  | checkRead {sid session} : s.loop.pc = .checkRead sid → s.server.heap sid = some session →
      Step s .checkRead (s.checkRead sid session)
  | registerRead {sid} : s.loop.pc = .registerRead sid → Step s .registerRead (s.registerRead sid)
  | flushFailed {o sid session} : s.loop.pc = .flushing sid → s.server.heap sid = some session →
      answerable (s.broken sid) (session.conn.flush o).call o →
      Step s (.flush o) ((s.flushed sid session (session.conn.flush o)).closeAndLeave [sid])
  | flush {o sid session} : s.loop.pc = .flushing sid → s.server.heap sid = some session →
      answerable (s.broken sid) (session.conn.flush o).call o →
      Step s (.flush o) ((s.flushed sid session (session.conn.flush o)).goto (.checkWrite sid))
  | pending {sid} : s.loop.pc = .checkWrite sid → Step s .checkWrite (s.leave sid)
  | drained {sid session} : s.loop.pc = .checkWrite sid → s.server.heap sid = some session →
      session.conn.needFlush = false → Step s .checkWrite (s.goto (.unregister sid))
  | unregister {sid} : s.loop.pc = .unregister sid → Step s .unregister (s.unregister sid)
  | disconnect {sid} : Step s (.disconnect sid) { s with broken := Function.update s.broken sid true }

variable {s t : System} {l : Label}

theorem dispatch_cases {e : EventResult} {batch : List EventResult} {accept : AcceptOutcome}
    {expired : Option Int} (hpc : s.loop.pc = .idle) (hhandlers : s.loop.handlers = [])
    (hbatch : s.loop.batch = e :: batch)
    (h : (s.takeEntry batch).dispatch e accept expired = some t) :
    Step s (.dispatch accept expired) t := by
  unfold dispatch at h
  split at h
  · obtain rfl := Option.some.inj h
    exact .skip hpc hhandlers hbatch (.inl (by assumption))
  · obtain ⟨res, hres, rfl⟩ := Option.map_eq_some_iff.mp h
    exact .accept hpc hhandlers hbatch (by assumption) hres
  · split at h
    · obtain rfl := Option.some.inj h
      exact .skip hpc hhandlers hbatch (.inr ⟨by assumption, rfl⟩)
    · obtain rfl := Option.some.inj h
      exact .sweep hpc hhandlers hbatch (by assumption)
  · obtain rfl := Option.some.inj h
    exact .enter hpc hhandlers hbatch (by assumption)

theorem handle_cases {hd : Handler} {handlers : List Handler} {recv : RecvOutcome}
    (hpc : s.loop.pc = .idle) (hhandlers : s.loop.handlers = hd :: handlers)
    (h : (s.takeHandler handlers).handle hd recv = some t) : Step s (.handle recv) t := by
  unfold handle at h
  cases hd with
  | onError =>
    obtain rfl := Option.some.inj h
    exact .drop hpc hhandlers (by simp)
  | onRead =>
    simp only at h
    split at h
    · obtain rfl := Option.some.inj h
      exact .absent hpc hhandlers
    · rename_i sid hsid
      obtain ⟨session, hs, rfl⟩ := Option.map_eq_some_iff.mp h
      unfold onRead
      split
      · exact .drop hpc hhandlers (List.forall_mem_singleton.mpr hsid)
      · simp only
        split
        · exact .hangUp hpc hhandlers hsid hs
        · exact .receive hpc hhandlers hsid hs
  | onWrite =>
    simp only at h
    split at h
    · obtain rfl := Option.some.inj h
      exact .absent hpc hhandlers
    · rename_i sid hsid
      obtain ⟨session, hs, rfl⟩ := Option.map_eq_some_iff.mp h
      unfold onWrite
      split
      · exact .drop hpc hhandlers (List.forall_mem_singleton.mpr hsid)
      · exact .writable hpc hhandlers hsid hs

theorem turn_cases {sid : Nat} {session : RtspSession} {env : RequestEnv} {beyond : Nat → UInt8}
    (hpc : s.loop.pc = .reading sid) (hs : s.server.heap sid = some session)
    (h : s.turn sid session env beyond = some t) : Step s (.turn env beyond) t := by
  unfold turn at h
  split at h
  · obtain rfl := Option.some.inj h
    exact .readDone hpc hs (by assumption)
  · obtain rfl := Option.some.inj h
    exact .tooLarge hpc hs (by assumption)
  · obtain rfl := Option.some.inj h
    exact .skipFrame hpc hs (by assumption)
  · simp only at h
    split at h
    · obtain ⟨kernel, hkernel, rfl⟩ := Option.map_eq_some_iff.mp h
      exact .request hpc hs (by assumption) rfl (by assumption) hkernel
    · cases h

theorem step_cases (h : s.step l = some t) : Step s l t := by
  unfold step at h
  split at h
  · cases h
  · cases l with
    | broadcast packet =>
      simp only at h
      split at h
      · obtain rfl := Option.some.inj h
        exact .broadcast (by assumption)
      · cases h
    | load now =>
      simp only at h
      split at h
      · obtain ⟨session, hs, rfl⟩ := Option.map_eq_some_iff.mp h
        exact .load (by assumption) (by assumption) hs
      · cases h
    | sendTo o =>
      simp only at h
      split at h
      · obtain rfl := Option.some.inj h
        exact .sendTo (by assumption)
      · cases h
    | sendV o =>
      simp only at h
      split at h
      · obtain ⟨session, hs, h⟩ := Option.bind_eq_some_iff.mp h
        split at h
        · obtain rfl := Option.some.inj h
          exact .sendV (by assumption) hs (by assumption)
        · cases h
      · cases h
    | recordDrop =>
      simp only at h
      split at h
      · obtain ⟨session, hs, rfl⟩ := Option.map_eq_some_iff.mp h
        exact .recordDrop (by assumption) hs
      · cases h
    | recordSuccess =>
      simp only at h
      split at h
      · obtain ⟨session, hs, rfl⟩ := Option.map_eq_some_iff.mp h
        exact .recordSuccess (by assumption) hs
      · cases h
    | streamModify =>
      simp only at h
      split at h
      · obtain rfl := Option.some.inj h
        exact .streamModify (by assumption)
      · cases h
    | finish =>
      simp only at h
      split at h
      · obtain rfl := Option.some.inj h
        exact .finish (by assumption) (by assumption)
      · cases h
    | wait results =>
      simp only at h
      split at h
      · split at h
        · obtain rfl := Option.some.inj h
          exact .wait (by assumption) (by assumption) (by assumption) (by assumption)
        · cases h
      · cases h
    | dispatch accept expired =>
      simp only at h
      split at h
      · exact dispatch_cases (by assumption) (by assumption) (by assumption) h
      · cases h
    | handle recv =>
      simp only at h
      split at h
      · exact handle_cases (by assumption) (by assumption) h
      · cases h
    | turn env beyond =>
      simp only at h
      split at h
      · obtain ⟨session, hs, h⟩ := Option.bind_eq_some_iff.mp h
        exact turn_cases (by assumption) hs h
      · cases h
    | checkRead =>
      simp only at h
      split at h
      · obtain ⟨session, hs, rfl⟩ := Option.map_eq_some_iff.mp h
        exact .checkRead (by assumption) hs
      · cases h
    | registerRead =>
      simp only at h
      split at h
      · obtain rfl := Option.some.inj h
        exact .registerRead (by assumption)
      · cases h
    | flush o =>
      simp only at h
      split at h
      · obtain ⟨session, hs, h⟩ := Option.bind_eq_some_iff.mp h
        split at h
        · obtain rfl := Option.some.inj h
          unfold flush
          simp only
          split
          · exact .flushFailed (by assumption) hs (by assumption)
          · exact .flush (by assumption) hs (by assumption)
        · cases h
      · cases h
    | checkWrite =>
      simp only at h
      split at h
      · obtain ⟨session, hs, rfl⟩ := Option.map_eq_some_iff.mp h
        unfold checkWrite
        split
        · exact .pending (by assumption)
        · rename_i hneed
          exact .drained (by assumption) hs (Bool.eq_false_of_not_eq_true hneed)
      · cases h
    | unregister =>
      simp only at h
      split at h
      · obtain rfl := Option.some.inj h
        exact .unregister (by assumption)
      · cases h
    | disconnect sid =>
      obtain rfl := Option.some.inj h
      exact .disconnect

/-! ## Writes on connections -/

/-- The write a step issues on a client's connection: the session and the result. -/
def issued (s : System) : Label → Option (Nat × WriteResult)
  | .sendV o =>
    match s.stream.pc with
    | .tcp sid _ => (s.server.heap sid).map fun session =>
        (sid, (RtpForwarder.forwardTcp session.conn s.stream.packet o).1)
    | _ => none
  | .turn env beyond =>
    match s.loop.pc with
    | .reading sid => (s.server.heap sid).bind fun session =>
        match RtspForward.turn session.conn.readBuffer with
        | .request requestLen =>
          (session.processData (session.conn.readBuffer.rawView requestLen beyond) env).reply.map
            fun reply => (sid, reply.result)
        | _ => none
    | _ => none
  | .flush o =>
    match s.loop.pc with
    | .flushing sid => (s.server.heap sid).map fun session => (sid, session.conn.flush o)
    | _ => none
  | _ => none

/-- The three functions a step can write with. -/
theorem issued_cases {sid : Nat} {res : WriteResult} (h : s.issued l = some (sid, res)) :
    ∃ session, s.server.heap sid = some session ∧
      ((∃ o, res = (RtpForwarder.forwardTcp session.conn s.stream.packet o).1) ∨
        (∃ response o, res = session.conn.send response o) ∨ ∃ o, res = session.conn.flush o) := by
  cases l with
  | sendV o =>
    simp only [issued] at h
    split at h
    · obtain ⟨session, hs, heq⟩ := Option.map_eq_some_iff.mp h
      obtain ⟨rfl, rfl⟩ := Prod.mk.inj heq
      exact ⟨session, hs, .inl ⟨o, rfl⟩⟩
    · cases h
  | turn env beyond =>
    simp only [issued] at h
    split at h
    · obtain ⟨session, hs, h⟩ := Option.bind_eq_some_iff.mp h
      split at h
      · obtain ⟨reply, hreply, heq⟩ := Option.map_eq_some_iff.mp h
        obtain ⟨rfl, rfl⟩ := Prod.mk.inj heq
        obtain ⟨response, hres⟩ := session.processData_reply env _ hreply
        exact ⟨session, hs, .inr (.inl ⟨response, env.reply, hres⟩)⟩
      · cases h
    · cases h
  | flush o =>
    simp only [issued] at h
    split at h
    · obtain ⟨session, hs, heq⟩ := Option.map_eq_some_iff.mp h
      obtain ⟨rfl, rfl⟩ := Prod.mk.inj heq
      exact ⟨session, hs, .inr (.inr ⟨o, rfl⟩)⟩
    · cases h
  | broadcast | load | sendTo | recordDrop | recordSuccess | streamModify | finish | wait | dispatch
  | handle | checkRead | registerRead | checkWrite | unregister | disconnect => cases h

theorem alive_of_step (h : s.step l = some t) : s.killed = false := by
  unfold step at h
  split at h
  · cases h
  · rename_i hkilled
    exact Bool.eq_false_of_not_eq_true hkilled

end RtspForward.System

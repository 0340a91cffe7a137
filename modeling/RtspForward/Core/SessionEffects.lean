import RtspForward.Core.RtspSession
import RtspForward.Net.WritePath

/-!
# What handling a request can change

Every handler sends exactly one response and touches the connection only through that
call of `Send`, so the read buffer and the descriptor of the connection stay. Data that
does not parse changes the activity time and nothing else.
-/
namespace RtspForward

namespace Connection

/-- Whatever its route, a message changes the write buffer only. -/
theorem routed_frame (c : Connection) (message : Bytes) (o : WriteOutcome) (call : WriteCall)
    (after : Nat → RingBuffer × Bool) (all : RingBuffer × Bool) :
    ∃ w, (c.routed message o call after all).conn = { c with writeBuffer := w } := by
  unfold routed
  cases c.route message.length o with
  | nothing | direct | refused => exact ⟨c.writeBuffer, rfl⟩
  | split sent => exact ⟨_, rfl⟩
  | queue => exact ⟨_, rfl⟩

theorem send_frame (c : Connection) (data : Bytes) (o : WriteOutcome) :
    ∃ w, (c.send data o).conn = { c with writeBuffer := w } := by
  rw [send_routed]
  exact c.routed_frame ..

end Connection

namespace RtspSession

variable (s : RtspSession) (request : RtspRequest) (env : RequestEnv)

/-- The outcome is that of one response sent on the connection of `s`. -/
def Answers (h : Handled) : Prop :=
  ∃ response, h.reply = some ⟨response, s.conn.send response env.reply⟩ ∧
    h.session.conn = (s.conn.send response env.reply).conn

theorem handleDescribe_answers : Answers s env (s.handleDescribe request env) := by
  unfold handleDescribe
  simp only
  split
  · exact ⟨_, rfl, rfl⟩
  · exact ⟨_, rfl, rfl⟩

theorem setupUdp_answers : Answers s env (s.setupUdp request env) := by
  unfold setupUdp
  simp only
  split
  · exact ⟨_, rfl, rfl⟩
  · split
    · exact ⟨_, rfl, rfl⟩
    · exact ⟨_, rfl, rfl⟩

theorem handleSetup_answers : Answers s env (s.handleSetup request env) := by
  unfold handleSetup
  simp only
  split
  · exact setupUdp_answers _ request env
  · split
    · exact ⟨_, rfl, rfl⟩
    · exact ⟨_, rfl, rfl⟩

theorem handleRequest_answers : Answers s env (s.handleRequest request env) := by
  unfold handleRequest
  cases request.method with
  | kDescribe => exact handleDescribe_answers s request env
  | kSetup => exact handleSetup_answers s request env
  | kUnknown | kOptions | kPlay | kPause | kTeardown | kGetParameter | kSetParameter =>
    exact ⟨_, rfl, rfl⟩

/-- `ProcessData` either refuses the data and leaves all but the activity time alone, or
hands the parsed request to `HandleRequest`. -/
theorem processData_cases (data : Bytes) :
    (∃ status, RtspParser.parse data {} = .error status ∧
      s.processData data env = { session := s.updateActivity env.now, status := status }) ∨
    (∃ request, RtspParser.parse data {} = .ok request ∧
      s.processData data env = (s.updateActivity env.now).handleRequest request env) := by
  unfold processData
  cases RtspParser.parse data {} with
  | error status => exact .inl ⟨status, rfl, rfl⟩
  | ok request => exact .inr ⟨request, rfl, rfl⟩

/-- The reply to a request is handed to one `Send`. -/
theorem processData_reply (data : Bytes) {reply : Reply}
    (h : (s.processData data env).reply = some reply) :
    ∃ response, reply.result = s.conn.send response env.reply := by
  rcases processData_cases s env data with ⟨status, -, heq⟩ | ⟨request, -, heq⟩
  · rw [heq] at h
    cases h
  · rw [heq] at h
    obtain ⟨response, hreply, -⟩ := handleRequest_answers (s.updateActivity env.now) request env
    obtain rfl := Option.some.inj (hreply.symm.trans h)
    exact ⟨response, rfl⟩

/-- The connection after `ProcessData`: unchanged, or after one `Send`. -/
theorem processData_conn (data : Bytes) :
    (s.processData data env).session.conn = s.conn ∨
      ∃ response, (s.processData data env).session.conn =
        (s.conn.send response env.reply).conn := by
  rcases processData_cases s env data with ⟨status, -, heq⟩ | ⟨request, -, heq⟩
  · exact .inl (by rw [heq]; rfl)
  · rw [heq]
    obtain ⟨response, -, hconn⟩ := handleRequest_answers (s.updateActivity env.now) request env
    exact .inr ⟨response, hconn⟩

/-- `ProcessData` touches neither the read buffer nor the descriptor of the connection. -/
theorem processData_frame (data : Bytes) :
    ∃ w, (s.processData data env).session.conn = { s.conn with writeBuffer := w } := by
  rcases processData_conn s env data with hconn | ⟨response, hconn⟩
  · exact ⟨s.conn.writeBuffer, hconn⟩
  · rw [hconn]
    exact s.conn.send_frame response env.reply

end RtspSession

end RtspForward

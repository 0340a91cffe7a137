import RtspForward.Core.Shutdown
import RtspForward.Core.StaleCallbacks

/-!
# The listener and the timer stay registered

The event-loop thread closes and takes off epoll's list what belongs to clients only: a table
entry stands under the descriptor of its session, and nobody else holds that one. So the listener
and the timer stay registered until `Stop` comes to them, with whatever sessions are there.
-/
namespace RtspForward

open Lib Transition Custody

namespace Lifecycle

variable {s t u : Lifecycle} {l : LifecycleLabel} {sid : Nat} {fd : Int}

/-- The session with this number has this descriptor. -/
def ConnectedBy (s : Lifecycle) (sid : Nat) (fd : Int) : Prop :=
  ∃ x, s.server.heap sid = some x ∧ x.conn.fdGuard.held = some fd

/-- A session is in the table under its descriptor, and is put there under no other. -/
structure KeysMatch (s : Lifecycle) : Prop where
  table : ∀ (fd : Int) sid, s.server.sessions[fd]? = some sid → s.ConnectedBy sid fd
  created : ∀ (fd : Nat) sid, s.loop = .created fd sid → s.ConnectedBy sid fd

/-- The live sessions keep their descriptors. -/
theorem ConnectedBy.of_heap (h : s.ConnectedBy sid fd) (hheap : t.server.heap = s.server.heap) :
    t.ConnectedBy sid fd := by
  unfold ConnectedBy
  rw [hheap]
  exact h

theorem KeysMatch.of_heap (h : s.KeysMatch) (hheap : t.server.heap = s.server.heap)
    (hsessions : ∀ (x : Int) a, t.server.sessions[x]? = some a → s.server.sessions[x]? = some a)
    (hloop : ∀ (x : Nat) a, t.loop = .created x a → s.loop = .created x a) : t.KeysMatch where
  table x a hx := (h.table x a (hsessions x a hx)).of_heap hheap
  created x a ha := (h.created x a (hloop x a ha)).of_heap hheap

theorem releaseOne_keysMatch (h : s.KeysMatch) (sid : Nat) : (s.releaseOne sid).KeysMatch := by
  unfold releaseOne
  split
  · exact h
  · rename_i hrefers
    have hunreferred : ¬ ((∃ x : Int, s.server.sessions[x]? = some sid) ∨ s.loop.session = some sid) := by
      rw [← refers_iff]
      exact hrefers
    have hkept (a : Nat) (x : Int) (ha : a ≠ sid) (hconn : s.ConnectedBy a x) :
        ConnectedBy { s with server := s.server.destroy sid } a x := by
      obtain ⟨y, hy, hheld⟩ := hconn
      refine ⟨y, ?_, hheld⟩
      show (s.server.destroy sid).heap a = some y
      unfold Server.destroy
      split
      · exact hy
      · simp [ha, hy]
    have hsessions : (s.server.destroy sid).sessions = s.server.sessions := by
      unfold Server.destroy
      split <;> rfl
    refine ⟨fun x a hx => ?_, fun x a ha => ?_⟩
    · have hx' : s.server.sessions[x]? = some a := by
        rw [← hsessions]
        exact hx
      refine hkept a x ?_ (h.table x a hx')
      rintro rfl
      exact hunreferred (.inl ⟨x, hx'⟩)
    · have ha' : s.loop = .created x a := ha
      refine hkept a x ?_ (h.created x a ha')
      rintro rfl
      exact hunreferred (.inr (by simp [ha', CallbackPc.session]))

theorem release_keysMatch (sids : List Nat) :
    ∀ {s : Lifecycle}, s.KeysMatch → (s.release sids).KeysMatch := by
  induction sids with
  | nil => exact fun h => h
  | cons sid sids ih => exact fun h => ih (releaseOne_keysMatch h sid)

theorem closeConnection_keysMatch (h : s.KeysMatch) (fd : Int) {loop : CallbackPc} {held : List Nat}
    (hloop : ∀ (x : Nat) a, loop ≠ .created x a) : (s.closeConnection fd loop held).KeysMatch := by
  obtain ⟨hheap, -, -, -, hsessions, -⟩ := Server.closeConnection_frame s.server fd
  apply release_keysMatch
  refine h.of_heap hheap (fun x a hx => ?_) fun x a ha => absurd ha (hloop x a)
  have hx' : (if fd = x then none else s.server.sessions[x]?) = some a := (hsessions x).symm.trans hx
  split at hx'
  · cases hx'
  · exact hx'

/-- `Close` leaves a session the descriptor of its connection. -/
theorem closeSessions_connectedBy (sids : List Nat) : ∀ {s : Lifecycle} {a : Nat} {x : Int},
    s.ConnectedBy a x →
      ConnectedBy { s with server := sids.foldl Server.closeSession s.server } a x := by
  induction sids with
  | nil => exact fun h => h
  | cons sid sids ih =>
    intro s a x h
    refine ih (s := { s with server := s.server.closeSession sid }) ?_
    obtain ⟨y, hy, hheld⟩ := h
    by_cases ha : a = sid
    · refine ⟨y.close.1, ?_, hheld⟩
      subst ha
      simp [Server.closeSession, hy]
    · refine ⟨y, ?_, hheld⟩
      show (s.server.closeSession sid).heap a = some y
      unfold Server.closeSession
      split
      · exact hy
      · simp [ha, hy]

theorem clearSessions_keysMatch (h : s.KeysMatch) : s.clearSessions.KeysMatch := by
  apply release_keysMatch
  refine ⟨fun x a hx => ?_, fun x a ha => closeSessions_connectedBy s.sids (h.created x a ha)⟩
  have hnone : (∅ : Std.TreeMap Int Nat)[x]? = some a := hx
  simp at hnone

theorem step_keysMatch (hfresh : s.server.heap s.server.created = none) (h : s.KeysMatch)
    (hstep : s.step l = some t) : t.KeysMatch := by
  cases step_cases hstep with
  | refuse | absent | collectNone => exact h
  | accept | overLimit | underLimit | lookUp | collect | swept | exitRun =>
    exact h.of_heap rfl (fun _ _ hx => hx) fun _ _ ha => CallbackPc.noConfusion ha
  | clearRunning | notRunning | stopLoop => exact h.of_heap rfl (fun _ _ hx => hx) fun _ _ ha => ha
  | @addFailed fd ok =>
    obtain ⟨hheap, -⟩ := Server.addFd_frame s.server fd {} .client ok
    have hsessions := (addFd_members s.server fd {} .client ok).2
    refine h.of_heap hheap (fun x a hx => ?_) fun _ _ ha => CallbackPc.noConfusion ha
    rw [← hsessions]
    exact hx
  | @add fd ok =>
    obtain ⟨hheap, -⟩ := Server.addFd_frame s.server fd {} .client ok
    have hsessions := (addFd_members s.server fd {} .client ok).2
    refine h.of_heap hheap (fun x a hx => ?_) fun _ _ ha => CallbackPc.noConfusion ha
    rw [← hsessions]
    exact hx
  | @create fd timestamp now garbage session hloop hs =>
    have hkept (a : Nat) (x : Int) (hconn : s.ConnectedBy a x) : ∃ y,
        Function.update s.server.heap s.server.created (some session) a = some y ∧
          y.conn.fdGuard.held = some x := by
      obtain ⟨y, hy, hheld⟩ := hconn
      refine ⟨y, (Function.update_of_ne ?_ _ _).trans hy, hheld⟩
      rintro rfl
      cases hy.symm.trans hfresh
    refine ⟨fun x a hx => hkept a x (h.table x a hx), fun x a ha => ?_⟩
    cases ha
    have hconn : session.conn.fdGuard.fd = (fd : Int) := (Server.create_fresh hs).fd_eq
    exact ⟨session, Function.update_self _ _ _, by simp [FdGuard.held, hconn]⟩
  | @insert fd sid hloop =>
    apply release_keysMatch
    refine ⟨fun x a hx => ?_, fun x a ha => by cases ha⟩
    have hx' : (if (fd : Int) = x then some sid else s.server.sessions[x]?) = some a :=
      (Server.getElem?_insert s.server.sessions fd x sid).symm.trans hx
    split at hx'
    · rename_i heq
      obtain rfl := Option.some.inj hx'
      exact heq ▸ (h.created fd sid hloop).of_heap rfl
    · exact (h.table x a hx').of_heap rfl
  | @request fd sid data env session kernel hloop hs hk =>
    have hkept (a : Nat) (x : Int) (hconn : s.ConnectedBy a x) : ConnectedBy { s with
        server := { s.server with kernel := kernel }.setSession sid
          ((session.processData data env).session.consume data.length) } a x := by
      obtain ⟨y, hy, hheld⟩ := hconn
      by_cases ha : a = sid
      · subst ha
        obtain rfl := Option.some.inj (hs.symm.trans hy)
        obtain ⟨w, hw⟩ := session.processData_frame env data
        refine ⟨_, Function.update_self _ _ _, ?_⟩
        simp only [RtspSession.consume, Connection.consume, hw]
        exact hheld
      · exact ⟨y, (Function.update_of_ne ha _ _).trans hy, hheld⟩
    refine ⟨fun x a hx => hkept a x (h.table x a hx), fun x a ha => ?_⟩
    rw [hloop] at ha
    cases ha
  | @leave fd sid hloop =>
    apply release_keysMatch
    exact h.of_heap rfl (fun _ _ hx => hx) fun _ _ ha => CallbackPc.noConfusion ha
  | hangUp => exact closeConnection_keysMatch h _ fun _ _ ha => CallbackPc.noConfusion ha
  | onError => exact closeConnection_keysMatch h _ fun _ _ ha => CallbackPc.noConfusion ha
  | @closeNext fd fds hloop =>
    refine closeConnection_keysMatch (s := { s with server := { s.server with
      timedOutSessions := (s.server.timedOutSessions + 1) % 2 ^ 64 } }) ?_ fd
      fun _ _ ha => CallbackPc.noConfusion ha
    exact h.of_heap rfl (fun _ _ hx => hx) fun _ _ ha => ha
  | removeTimer =>
    obtain ⟨-, hloop, hheap, hsessions⟩ := removeTimer_frame s
    exact h.of_heap hheap (fun x a hx => hsessions ▸ hx) fun x a ha => hloop.symm.trans ha
  | clearSessions =>
    exact (clearSessions_keysMatch h).of_heap rfl (fun _ _ hx => hx) fun _ _ ha => ha
  | closeListener =>
    obtain ⟨-, -, hloop, hheap, hsessions⟩ := closeListener_frame s
    exact h.of_heap hheap (fun x a hx => hsessions ▸ hx) fun x a ha => hloop.symm.trans ha

/-! ## What a step leaves registered -/

/-- The descriptor is open and no client's. -/
structure Apart (s : Lifecycle) (fd : Int) : Prop where
  aside : System.Aside s.server fd
  key : s.server.sessions[fd]? = none
  client : s.loop.clientFd ≠ some fd

/-- Epoll and the callbacks know the same of the descriptor. -/
def SameAt (fd : Int) (s t : Lifecycle) : Prop :=
  t.server.kernel.interest fd = s.server.kernel.interest fd ∧
    t.server.callbacks fd = s.server.callbacks fd

theorem SameAt.trans (h : SameAt fd s t) (h' : SameAt fd t u) : SameAt fd s u :=
  ⟨h'.1.trans h.1, h'.2.trans h.2⟩

theorem releaseOne_apart (h : System.Aside s.server fd) (sid : Nat) :
    SameAt fd s (s.releaseOne sid) ∧ System.Aside (s.releaseOne sid).server fd := by
  unfold releaseOne
  split
  · exact ⟨⟨rfl, rfl⟩, h⟩
  · show SameAt fd s { s with server := s.server.destroy sid } ∧
      System.Aside (s.server.destroy sid) fd
    cases hs : s.server.heap sid with
    | none =>
      simp only [Server.destroy, hs]
      exact ⟨⟨rfl, rfl⟩, h⟩
    | some x =>
      obtain ⟨-, -, hheap, hk⟩ := Server.destroy_frame s.server sid hs
      have hnot : fd ∉ x.udpFds ++ x.conn.fdGuard.close.2 := fun hin =>
        h.2 sid x hs (Server.owns_of_destroyed hin)
      refine ⟨⟨hk.interest_eq fd h.1 hnot, ?_⟩, ?_, fun a y hy => ?_⟩
      · simp only [Server.destroy, hs]
      · exact (hk.opened_iff fd).mpr (.inl ⟨h.1, hnot⟩)
      · rw [hheap] at hy
        by_cases ha : a = sid
        · simp [ha] at hy
        · exact h.2 a y (by simpa [ha] using hy)

theorem release_sameAt (sids : List Nat) : ∀ {s : Lifecycle}, System.Aside s.server fd →
    SameAt fd s (s.release sids) := by
  induction sids with
  | nil => exact fun _ => ⟨rfl, rfl⟩
  | cons sid sids ih =>
    intro s h
    obtain ⟨hsame, haside⟩ := releaseOne_apart h sid
    exact hsame.trans (ih haside)

theorem closeConnection_sameAt (h : s.Apart fd) (x : Int) (loop : CallbackPc) (held : List Nat) :
    SameAt fd s (s.closeConnection x loop held) := by
  obtain ⟨hheap, -, hopened, hinterest, -⟩ := Server.closeConnection_frame s.server x
  have hclosed : SameAt fd s { s with server := (s.server.closeConnection x).1, loop := loop } := by
    by_cases hx : x = fd
    · subst hx
      -- there is no such entry in the table
      unfold Server.closeConnection
      rw [h.key]
      exact ⟨rfl, rfl⟩
    · refine ⟨hinterest fd (Ne.symm hx), ?_⟩
      unfold Server.closeConnection
      split
      · rfl
      · unfold Server.removeFd
        split
        · rfl
        · split
          · exact Function.update_of_ne (Ne.symm hx) _ _
          · rfl
  refine hclosed.trans (release_sameAt _ ?_)
  exact System.aside_of_eq h.aside hheap hopened

/-- The event-loop thread works with the descriptors of clients. -/
theorem step_sameAt (h : s.Apart fd) (hopen : ∀ sid x, s.server.heap sid = some x →
    ∀ y ∈ x.udpFds, s.server.kernel.opened y = true) (hl : l ≠ .stop) (hstep : s.step l = some t) :
    SameAt fd s t := by
  have hclose (x : Nat) (srv : Server) (hclient : s.loop.clientFd = some (x : Int)) :
      (srv.kernel.close x).interest fd = srv.kernel.interest fd := by
    have hne : fd ≠ x := by
      rintro rfl
      exact h.client hclient
    simp [Kernel.close, hne]
  cases step_cases hstep with
  | refuse | absent | collectNone | underLimit | lookUp | collect | swept | exitRun | create =>
    exact ⟨rfl, rfl⟩
  | @accept new kernel hloop hlistener hk =>
    exact ⟨(Kernel.changes_of_acquire hk).interest_eq fd h.aside.1 List.not_mem_nil, rfl⟩
  | @overLimit x hloop => exact ⟨hclose x s.server (by simp [hloop, CallbackPc.clientFd]), rfl⟩
  | @addFailed x ok hloop hok =>
    rcases s.server.addFd_cases x ok with ⟨hadded, -⟩ | ⟨-, hsame⟩
    · cases hok.symm.trans hadded
    · rw [hsame]
      exact ⟨hclose x s.server (by simp [hloop, CallbackPc.clientFd]), rfl⟩
  | @add x ok hloop hok =>
    have hne : fd ≠ x := by
      rintro rfl
      exact h.client (by simp [hloop, CallbackPc.clientFd])
    rcases s.server.addFd_cases x ok with ⟨-, hadded⟩ | ⟨-, hsame⟩
    · rw [hadded]
      exact ⟨by simp [Kernel.register, hne], Function.update_of_ne hne _ _⟩
    · rw [hsame]
      exact ⟨rfl, rfl⟩
  | insert =>
    have haside : System.Aside s.server fd := h.aside
    exact release_sameAt _ haside
  | @request x sid data env session kernel hloop hs hk =>
    obtain ⟨released, acquired, hch, hrel, -⟩ := RtspSession.processData_changes (hopen sid session hs) hk
    refine ⟨hch.interest_eq fd h.aside.1 fun hin => ?_, rfl⟩
    exact h.aside.2 sid session hs (.inr (hrel fd hin))
  | leave =>
    have haside : System.Aside s.server fd := h.aside
    exact release_sameAt _ haside
  | hangUp | onError => exact closeConnection_sameAt h _ _ _
  | @closeNext x fds hloop =>
    have hapart : Apart { s with server := { s.server with
        timedOutSessions := (s.server.timedOutSessions + 1) % 2 ^ 64 } } fd :=
      ⟨h.aside, h.key, h.client⟩
    exact closeConnection_sameAt hapart x _ _
  | clearRunning | notRunning | stopLoop | removeTimer | clearSessions | closeListener =>
    exact absurd rfl hl

/-! ## From the custody of the descriptors -/

variable {κ : Type*} {others : κ → Option Int}

/-- A session that owns a descriptor holds it in one of its variables. -/
theorem holds_of_owns {x : RtspSession} (hs : s.server.heap sid = some x) (hfd : x.Owns fd) :
    s.holders (.conn sid) = some fd ∨ s.holders (.udpRtpFd sid) = some fd ∨
      s.holders (.udpRtcpFd sid) = some fd := by
  obtain ⟨a, ha, hheld⟩ := holders_of_owns hs hfd
  rcases mem_destroyOrder.mp ha with rfl | rfl | rfl
  · exact .inr (.inl hheld)
  · exact .inr (.inr hheld)
  · exact .inl hheld

theorem opened_of_holds (h : Linear (Sum.elim s.holders others) s.server.kernel.opened) {a : Holder}
    (ha : s.holders a = some fd) : s.server.kernel.opened fd = true :=
  (h.inUse_iff fd).mpr ⟨.inl a, ha⟩

theorem udpFds_opened (h : Linear (Sum.elim s.holders others) s.server.kernel.opened)
    {x : RtspSession} (hs : s.server.heap sid = some x) :
    ∀ y ∈ x.udpFds, s.server.kernel.opened y = true := by
  intro y hy
  rcases holds_of_owns hs (.inr hy) with hheld | hheld | hheld
  · exact opened_of_holds h hheld
  · exact opened_of_holds h hheld
  · exact opened_of_holds h hheld

/-- What the listener or the timer holds is no client's. -/
theorem apart_of_held (h : Linear (Sum.elim s.holders others) s.server.kernel.opened)
    (hkeys : s.KeysMatch) {a : Holder} (ha : a = .listener ∨ a = .timer)
    (hfd : s.holders a = some fd) : s.Apart fd := by
  have hne {b : Holder} (hb : b ≠ .listener ∧ b ≠ .timer) : s.holders b ≠ some fd := by
    intro hheld
    have heq : a = b := Sum.inl.inj (h.unique (.inl a) (.inl b) fd hfd hheld)
    subst heq
    exact ha.elim hb.1 hb.2
  refine ⟨⟨opened_of_holds h hfd, fun sid x hs hown => ?_⟩, ?_, fun hclient => ?_⟩
  · rcases holds_of_owns hs hown with hheld | hheld | hheld
    · exact hne (by simp) hheld
    · exact hne (by simp) hheld
    · exact hne (by simp) hheld
  · refine Option.eq_none_iff_forall_ne_some.mpr fun sid hsid => ?_
    obtain ⟨x, hx, hheld⟩ := hkeys.table fd sid hsid
    exact hne (b := .conn sid) (by simp) (by simp [holders, hx, hheld])
  · exact hne (b := .clientFd) (by simp) hclient

end Lifecycle

end RtspForward

import Collaboration.Client.Admission
import Collaboration.Library.Link
import Collaboration.Server.Replies
import Collaboration.Session.Delivery

/-! # Whether the two ends of a connection agree

A connection of the server and a thread of the client, joined by two wires, among whatever
else the server and the client do. Both ends are connected, or none is, once nothing is
under way, except where the server lets a client in without telling it. -/

namespace Collaboration

open Transition

/-- What the sender of a thread has written, in the order of the stream. -/
def SocketClientConnectionThread.sent (x : SocketClientConnectionThread) : List Data :=
  x.mDataSenderThread.elim [] Sender.delivered

/-- What a step reads on a connection. -/
def Server.Label.reads (c : ℕ) : Server.Label → Option Data
  | .read d data _ => if d = c then some data else none
  | _ => none

/-- A server, on the left, and a client. -/
abbrev Session := Link Server Client Data

namespace Session

def serverEnd (cfg : Config) (c : ℕ) : Endpoint Server Server.Label Data where
  step := Server.step cfg
  sent s := (s.connections c).sent
  reads := Server.Label.reads c

def clientEnd (cfg : ClientConfig) (n : ℕ) : Endpoint Client Client.Label Data where
  step := Client.step cfg
  sent s := (s.threads n).sent
  reads := Client.Label.reads n

/-- Connection `c` of the server is the peer of thread `n` of the client. -/
def step (serverCfg : Config) (clientCfg : ClientConfig) (c n : ℕ) (s : Session) :
    Server.Label ⊕ Client.Label → Option Session :=
  Link.step (serverEnd serverCfg c) (clientEnd clientCfg n) s

/-- Both sides right after `start()`. -/
def init (serverCfg : Config) (clientCfg : ClientConfig) (serverFree clientFree : Int32 → Bool) :
    Session :=
  .start (.init serverCfg serverFree) (.init clientCfg clientFree)

/-- The streams are open, the thread has not disconnected, and no package was lost on its
way out of the server: an `InnerPackage` can always be written unless the socket is broken. -/
structure Open (c n : ℕ) (s : Session) : Prop where
  server : (s.left.connections c).mObjectInputStream = true
  client : (s.right.threads n).mObjectInputStream = true
  status : (s.right.threads n).mConnectStatus ≠ .disconnected
  lossless : ∀ d ∈ (s.left.connections c).lost, d.isApplication = true

/-- Nothing is queued or in flight in either direction. -/
structure Quiet (c n : ℕ) (s : Session) : Prop where
  server : ∀ sender ∈ (s.left.connections c).mDataSenderThread, sender.mMessageTask = []
  client : ∀ sender ∈ (s.right.threads n).mDataSenderThread, sender.mMessageTask = []
  toServer : s.toLeft = []
  toClient : s.toRight = []

/-- With an `Authorizer`, the worker is not between its `PASS` and the change of the status;
without one, no package of the client has been accepted. -/
def Settled (cfg : Config) (c : ℕ) (past : List Server.Label) (s : Session) : Prop :=
  if cfg.mNeedCheckAuthorize then
    (s.left.connections c).pc.passes = true → (s.left.connections c).mConnectStatus = .connected
  else .decide c ∉ past

/-- Once nothing is queued, whatever the connection was given was written. -/
theorem toldPass_iff {c n : ℕ} {s : Session} (ho : Open c n s) (hq : Quiet c n s) :
    (s.left.connections c).ToldPass ↔
      ∃ d ∈ (s.left.connections c).sent, d.isPass = true := by
  have hserver := hq.server
  have hlost := ho.lossless
  unfold ServerConnection.ToldPass ServerConnection.messages ServerConnection.sent
  unfold ServerConnection.lost at hlost
  cases hs : (s.left.connections c).mDataSenderThread with
  | none => simp
  | some sender =>
      simp only [hs, Option.elim_some, Option.mem_def, Option.some.injEq, forall_eq']
        at hserver hlost ⊢
      constructor
      · rintro ⟨d, hd, hpass⟩
        rcases Sender.mem_messages.mp hd with hd | hd | ⟨task, htask, -⟩
        · exact ⟨d, hd, hpass⟩
        · simp [Data.isPass_eq_false (hlost d hd)] at hpass
        · simp [hserver] at htask
      · rintro ⟨d, hd, hpass⟩
        exact ⟨d, Sender.mem_messages.mpr (.inl hd), hpass⟩

/-- In every such state of a run whose packages are handled on registered connections, the
server side is connected if and only if the client thread is, exactly when the connection
is settled. -/
theorem ends_agree_iff (serverCfg : Config) (clientCfg : ClientConfig)
    (serverFree clientFree : Int32 → Bool) (c n : ℕ) (ls : List (Server.Label ⊕ Client.Label))
    (s : Session)
    (he : exec (step serverCfg clientCfg c n)
      (init serverCfg clientCfg serverFree clientFree) ls = some s)
    (hr : Along (Server.step serverCfg) Server.Registered (.init serverCfg serverFree)
      (Link.lefts ls))
    (ho : Open c n s) (hq : Quiet c n s) :
    ((s.left.connections c).isConnected = true ↔ (s.right.threads n).isConnected = true) ↔
      Settled serverCfg c (Link.lefts ls) s := by
  have hserver := Link.exec_left he
  have hreplies := Server.repliesInv_of_run hr hserver c
  have hclient : (s.right.threads n).isConnected = true ↔ (s.left.connections c).ToldPass := by
    have hfollows := Client.follows_of_run (Link.exec_right he) n
    have hwire : (s.left.connections c).sent =
        (Link.rights ls).filterMap (Client.Label.reads n) := by
      have hsent := Link.sent_eq_read_append (show _ = [] ++ _ from rfl)
        (Server.sent_along_run hr c) he
      simpa [hq.toClient, serverEnd, clientEnd] using hsent
    rw [toldPass_iff ho hq, hwire]
    exact hfollows.isConnected_iff ho.status
  have hstatus : (s.left.connections c).isConnected = true ↔
      (s.left.connections c).mConnectStatus = .connected := by
    simp [ServerConnection.isConnected]
  rw [hclient, hstatus, hreplies.told]
  unfold Settled
  cases hauth : serverCfg.mNeedCheckAuthorize with
  | true =>
      simp only [true_and, if_true]
      constructor
      · exact fun h hpasses => h.mpr (.inr hpasses)
      · exact fun h => ⟨.inl, fun hor => hor.elim id h⟩
  | false =>
      rw [Server.decided_of_run hauth hr hserver c]
      simp

/-! ## Runs -/

/-- The request of the sample client. -/
def request : InnerPackage :=
  .createAuthorizePackage (JString.lit "htc_one2_67890:1234567890")

/-- The client connects, and its connection is registered. -/
def meet : List (Server.Label ⊕ Client.Label) :=
  (Server.boot ++ Server.register).map .inl ++ Client.connect.map .inr ++
    (Server.openStreams 0).map .inl

/-- The request is written, and read by the server. -/
def ask : List (Server.Label ⊕ Client.Label) :=
  List.replicate 3 (.inr (.thread 1 (.send true))) ++ [.inl (.read 0 (.inner request) false)]

/-- The request is approved; the answer is written, and read by the client. -/
def answer : List (Server.Label ⊕ Client.Label) :=
  [.inl (.authorize 0 request.message (some true)), .inl (.reply 0)] ++
    List.replicate 3 (.inl (.connection 0 (.send true))) ++
    [.inr (.read 1 (.inner (.ofMessage InnerPackage.PASS)) false)]

/-- The server changes the status. -/
def conclude : List (Server.Label ⊕ Client.Label) := [.inl (.decide 0)]

theorem ends_agree_iff_answered :
    let s := (exec (step (.connectionImpl none true) sampleClient 0 1)
      (init (.connectionImpl none true) sampleClient (fun _ => true) fun _ => true)
      (meet ++ ask ++ answer ++ conclude)).get (by decide)
    ((s.left.connections 0).isConnected = true ↔ (s.right.threads 1).isConnected = true) ↔
      Settled (.connectionImpl none true) 0 (Link.lefts (meet ++ ask ++ answer ++ conclude)) s :=
  ends_agree_iff _ _ _ _ _ _ _ _ (Option.some_get _).symm (by decide)
    ⟨by decide, by decide, by decide, by decide⟩ ⟨by decide, by decide, by decide, by decide⟩

/-- The two ends of a connection agree in every such state. -/
def EndsAgree (serverCfg : Config) (clientCfg : ClientConfig) (c n : ℕ) : Prop :=
  ∀ ls s, exec (step serverCfg clientCfg c n)
      (init serverCfg clientCfg (fun _ => true) fun _ => true) ls = some s →
    Along (Server.step serverCfg) Server.Registered (.init serverCfg fun _ => true)
      (Link.lefts ls) →
    Open c n s → Quiet c n s →
    ((s.left.connections c).isConnected = true ↔ (s.right.threads n).isConnected = true)

/-- Without an `Authorizer` the client is never told; with one it is told too early. -/
theorem ends_disagree :
    ¬ EndsAgree (.connectionImpl none false) sampleClient 0 1 ∧
      ¬ EndsAgree (.connectionImpl none true) sampleClient 0 1 := by
  constructor
  · intro h
    have hagree := h (meet ++ ask ++ conclude) _ (Option.some_get (by decide)).symm (by decide)
      ⟨by decide, by decide, by decide, by decide⟩ ⟨by decide, by decide, by decide, by decide⟩
    exact absurd hagree (by decide)
  · intro h
    have hagree := h (meet ++ ask ++ answer) _ (Option.some_get (by decide)).symm (by decide)
      ⟨by decide, by decide, by decide, by decide⟩ ⟨by decide, by decide, by decide, by decide⟩
    exact absurd hagree (by decide)

end Session

end Collaboration

import HardwareWallet.Proofs.Client.Request

namespace HardwareWallet

open Attempt

structure RecordedLink (τ : Type) where
  link : τ
  written : List Message := []

namespace RecordedLink

variable {τ : Type} [Transport τ]

def onLink {α : Type} (x : Attempt τ α) : Attempt (RecordedLink τ) α :=
  x.onPart (fun l => l.link) fun l link => { l with link := link }

instance : Transport (RecordedLink τ) where
  path := fun l => Transport.path l.link
  present := onLink Transport.present
  connect := onLink Transport.connect
  disconnect := onLink Transport.disconnect
  write := fun request => do
    Attempt.modify fun l => { l with written := l.written ++ [request] }
    onLink (Transport.write request)
  read := fun timeout => onLink (Transport.read timeout)

theorem written_exchange (m : Message) (timeout : Timeout) (l : RecordedLink τ) :
    (Transport.exchange m timeout l).2.written = l.written ++ [m] := by
  have hw : Transport.write m l = ((Transport.write m l.link).1,
    { l with link := (Transport.write m l.link).2, written := l.written ++ [m] }) := rfl
  rw [Transport.exchange, bind_apply, hw]
  cases (Transport.write m l.link).1 <;> rfl

end RecordedLink

namespace Session

variable {τ : Type} [Transport τ] {s : Session (RecordedLink τ)}

def recorded {τ : Type} (s : Session τ) : Session (RecordedLink τ) :=
  ⟨{ link := s.link }, s.timeout, s.connection, s.channel, s.progress, s.log⟩

theorem written_call (m : Message) (s : Session (RecordedLink τ)) :
    (call m s).2.link.written = s.link.written ++ if s.connection = .connected then [m] else [] := by
  by_cases hc : s.connection = .connected
  · rw [if_pos hc, ← RecordedLink.written_exchange m s.timeout s.link]
    rcases link_call hc m with h | h
    · rw [h]
    · rw [h]
      rfl
  · rw [if_neg hc, List.append_nil, call_unconnected hc]

end Session

namespace Client

variable {τ : Type} [Transport τ]

def written (c : Client τ) (o : Operation) : List Message :=
  (o.perform { path := c.path, chain := c.chain, session := c.session.recorded }).session.link.written

theorem written_eq (c : Client τ) (o : Operation) :
    c.written o = if c.session.connection = .connected then (o.request? c).toList else [] := by
  let c' : Client (RecordedLink τ) := { path := c.path, chain := c.chain, session := c.session.recorded }
  have hw : c.written o = (o.perform c').session.link.written := rfl
  have hr : o.request? c' = o.request? c := request?_congr rfl rfl o
  rw [hw, ← hr]
  obtain ⟨s, hs⟩ : ∃ s, (o.perform c').session = s := ⟨_, rfl⟩
  have hp := o.performed c'
  rw [hs] at hp ⊢
  cases hp with
  | aside hn =>
    rw [hn]
    exact (ite_self []).symm
  | attached hn =>
    rw [hn, Session.link_attach]
    exact (ite_self []).symm
  | connected hn =>
    rw [hn, Session.link_connect]
    split <;> exact (ite_self []).symm
  | disconnected hn =>
    rw [hn, Session.link_disconnect]
    split <;> exact (ite_self []).symm
  | asked m hn =>
    rw [hn]
    exact Session.written_call m c'.session
  | pinSent pin hn =>
    rw [hn]
    exact Session.written_call _ (countAttempt c'.session)

end Client

end HardwareWallet

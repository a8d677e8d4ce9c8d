/-
KaroX2/Closing.lean

`WsClient.close` and `_on_transport_close` under a protocol.

Closing a client shuts its socket, waits for its reader and detaches both.  A protocol
that allows this at a stage is `Closable` there, and the callers of `WsClient.close` need
to look at their own updates only.
-/
import KaroX2.System
import KaroX2.Coop.Protocol

namespace KaroX2

open Coop

variable {γ : Type} {P : Protocol Karo γ} {g : γ} {me : TaskId} {c : WsId}

/-- The protocol allows what closing a client does and waits for. -/
structure Closable (P : Protocol Karo γ) (g : γ) : Prop where
  refl : ∀ w, P.update g w w g
  detach : ∀ c w, P.update g w (World.detach c w) g
  shut : ∀ c w, P.update g w (World.shutSocket c w) g
  cancel : ∀ reader w, P.update g w (World.cancelReader reader w) g
  close : ∀ c w, P.wait g (.wsClose c) w g
  join : ∀ reader w, P.wait g (.joinReader reader) w g
  joined : ∀ reader w, P.wait g (.joinCancelled reader) w g

theorem swallow_steady {d : M Unit} (hd : d.Steady P g fun _ => True) :
    (swallow d).Steady P g fun _ => True := by
  refine hd.attempt.bind fun r _ => ?_
  split
  · exact .raise
  · exact .pure trivial

namespace Closable

variable (h : Closable P g)

include h

theorem joinReader : (joinReader me c).Steady P g fun _ => True := by
  have hdetach : (Coro.modify (S := Karo) (World.detach c)).Steady P g fun _ => True :=
    .modify (h.detach c)
  refine .read fun w => ?_
  split
  · exact hdetach
  · split
    · exact hdetach
    · refine (Coro.Steady.wait (h.join _)).attempt.bind fun r _ => ?_
      split
      · exact hdetach
      · refine .read fun w => ?_
        split
        · exact .raise
        · refine (Coro.Steady.modify (h.cancel _)).andThen fun _ => ?_
          exact (Coro.Steady.wait (h.joined _)).attempt.bind fun _ _ => hdetach

theorem closeClient : (closeClient me c).Steady P g fun _ => True := by
  refine .read fun w => .when (.andThen (.when ?_) fun _ => h.joinReader)
  refine (Coro.Steady.modify (h.shut c)).andThen fun _ => swallow_steady ?_
  exact (Coro.Steady.wait (h.close c)).andThen fun _ => .pure trivial

theorem closeWs {last : World → World} (hlast : ∀ w, P.update g w (last w) g)
    (hclear : ∀ w, P.update g w (last w.clearWs) g) :
    (closeWs me last).Steady P g fun _ => True := by
  refine .read fun w => ?_
  split
  · exact .modify hlast
  · refine .scope h.refl h.refl (h.closeClient.andThen fun _ => .pure ⟨trivial, ?_⟩)
    exact hclear

end Closable

end KaroX2

import LanMessenger.Server.NickNameReplies

namespace LanMessenger

open CMemory Transition

variable {τ : Type}

theorem sanitise_eq_self_iff (byte : Byte) : sanitise byte = byte ↔ isprint byte = true := by
  unfold sanitise
  split
  · rename_i printable
    exact iff_of_true rfl printable
  · rename_i control
    refine iff_of_false (fun same => ?_) control
    subst same
    exact control (by decide)

theorem map_sanitise_eq_self_iff (name : List Byte) : name.map sanitise = name ↔ ∀ byte ∈ name, isprint byte = true := by
  calc
    name.map sanitise = name ↔ name.map sanitise = name.map id := by rw [List.map_id]
    _ ↔ ∀ byte ∈ name, sanitise byte = byte := List.map_inj_left
    _ ↔ ∀ byte ∈ name, isprint byte = true :=
      forall_congr' fun byte => forall_congr' fun _ => sanitise_eq_self_iff byte

namespace Server

variable {server next : Server τ} {target : Target} {client : SessionId} {memory : Memory} {origin : τ}
  {current : SessionData τ} {name : NicknameMessage}

theorem cString_verifiedNickName_ne (memory : Memory) (requested : List Byte) :
    cString (verifiedNickName memory requested) ≠ requested.map sanitise := by
  intro same
  rw [cString_verifiedNickName] at same
  have longer := congrArg List.length same
  simp only [List.length_append, List.length_cons] at longer
  omega

/-- The session holds the name, and the last message in its queue tells it so. -/
def HoldsAndEchoes (origin : τ) (text : List Byte) (after : SessionData τ) : Prop :=
  after.client.nickName = text ∧ ∃ earlier echo, after.client.outbox.sendingQueue_ = earlier ++ [⟨.nickname echo, origin⟩] ∧
    ∀ beyond, echo.nickName beyond = text

/-- The name that is checked is the requested one without its control characters, in its buffer; and if the change is
    accepted, it is the name that is stored and echoed. -/
structure ChecksStoredName (target : Target) (memory : Memory) (origin : τ) (server : Server τ) (client : SessionId)
    (current : SessionData τ) (name : NicknameMessage) : Prop where
  inside : (name.nickName memory.beyond).length + 1 ≤ maxNicknameSize
  verified : cString (verifiedNickName memory (name.nickName memory.beyond)) =
    (name.nickName memory.beyond).map sanitise
  stored : ∀ next, server.availableMessage target memory origin client (.nickname name) = .ok next →
    NickNameFree memory server client name → (current.changeState origin .nickname).client.outbox.canSendMessages = true →
    ∃ after, next.findSession client = some after ∧
      HoldsAndEchoes origin ((name.nickName memory.beyond).map sanitise) after

theorem nickname_fits (handled : server.availableMessage target memory origin client (.nickname name) = .ok next) :
    (name.nickName memory.beyond).length < maxNicknameSize := by
  rcases bind_ok handled with ⟨middle, -, after⟩
  rcases bind_ok after with ⟨accepted, checked, -⟩
  unfold clientChangedNickName at checked
  split at checked
  · cases checked
  · dsimp only at checked
    split at checked
    · cases checked
    · rename_i short
      exact not_le.mp short

theorem stored_requested (found : server.findSession client = some current)
    (handled : server.availableMessage target memory origin client (.nickname name) = .ok next)
    (free : NickNameFree memory server client name)
    (room : (current.changeState origin .nickname).client.outbox.canSendMessages = true) :
    ∃ after, next.findSession client = some after ∧ HoldsAndEchoes origin (name.nickName memory.beyond) after := by
  have short := nickname_fits handled
  have nonzero : 0#8 ∉ name.nickName memory.beyond := zero_not_mem_cString _
  rcases nickname_ok handled with ⟨accepted, agrees, -, rewrites⟩
  obtain rfl := agrees.mpr free
  have kept : ((current.changeState origin .nickname).client.setNickName (name.nickName memory.beyond)).nickName =
      name.nickName memory.beyond := by
    rw [SessionClient.nickName_setNickName, cString_of_not_mem nonzero]
    exact List.take_of_length_le (Nat.le_sub_one_of_lt short)
  refine ⟨_, by rw [rewrites.find, found, Option.map_some, if_pos rfl], kept,
    (current.changeState origin .nickname).client.outbox.sendingQueue_,
    .ofNickName (name.nickName memory.beyond), ?_, fun beyond => NicknameMessage.nickName_ofNickName nonzero short beyond⟩
  have queue := Outbox.send_of_room room ⟨.nickname (.ofNickName (name.nickName memory.beyond)), origin⟩
  simp only [renamed, if_true, SessionData.send, kept]
  exact congrArg Outbox.sendingQueue_ queue

theorem HoldsAndEchoes.iff_of_eq {text other : List Byte} {after : SessionData τ} (holds : HoldsAndEchoes origin text after) :
    HoldsAndEchoes origin other after ↔ other = text := by
  constructor
  · intro both
    exact both.1.symm.trans holds.1
  · rintro rfl
    exact holds

/-- No name is checked as it should be, whatever the 37 bytes it comes in; and what an accepted change stores and echoes
    is the sanitised name only if the requested one has no character to replace. -/
theorem nickNameSanitising (target : Target) (memory : Memory) (origin : τ) (server : Server τ) (client : SessionId)
    (current : SessionData τ) (name : NicknameMessage) (found : server.findSession client = some current) :
    ¬ ChecksStoredName target memory origin server client current name ∧
      ∀ next, server.availableMessage target memory origin client (.nickname name) = .ok next →
        NickNameFree memory server client name →
        (current.changeState origin .nickname).client.outbox.canSendMessages = true →
        ((∃ after, next.findSession client = some after ∧
            HoldsAndEchoes origin ((name.nickName memory.beyond).map sanitise) after) ↔
          ∀ byte ∈ name.nickName memory.beyond, isprint byte = true) := by
  refine ⟨fun checks => cString_verifiedNickName_ne memory _ checks.verified, fun next handled free room => ?_⟩
  rcases stored_requested found handled free room with ⟨after, there, holds⟩
  rw [there, ← map_sanitise_eq_self_iff, ← holds.iff_of_eq]
  simp only [Option.some.injEq, exists_eq_left']

/-- The only session takes a printable name: it is stored and echoed as it is. -/
theorem nickNameSanitising_bob :
    ∃ server next : Server Unit, ∃ current, exec (step .m64) new [.addSession 1 (Field.zero _)] = some server ∧
      server.findSession 1 = some current ∧
      server.availableMessage .m64 Memory.zeroed () 1 (.nickname (.ofNickName (ascii ['B', 'o', 'b']))) = .ok next ∧
      ¬ ChecksStoredName .m64 Memory.zeroed () server 1 current (.ofNickName (ascii ['B', 'o', 'b'])) ∧
      ∃ after, next.findSession 1 = some after ∧ HoldsAndEchoes () ((ascii ['B', 'o', 'b']).map sanitise) after := by
  have outcome : (exec (step .m64) (new : Server Unit) [.addSession 1 (Field.zero _)]).map (fun server =>
      ((server.findSession 1).map fun data => (data.changeState () .nickname).client.outbox.canSendMessages,
        decide (NickNameFree Memory.zeroed server 1 (.ofNickName (ascii ['B', 'o', 'b']))),
        (server.availableMessage .m64 Memory.zeroed () 1 (.nickname (.ofNickName (ascii ['B', 'o', 'b'])))).toOption.isSome)) =
      some (some true, true, true) := by
    decide +kernel
  rcases Option.map_eq_some_iff.mp outcome with ⟨server, ran, facts⟩
  simp only [Prod.mk.injEq] at facts
  rcases facts with ⟨room, free, handled⟩
  rcases Option.map_eq_some_iff.mp room with ⟨current, found, room⟩
  rcases Option.isSome_iff_exists.mp handled with ⟨next, handled⟩
  have requested : NicknameMessage.nickName (.ofNickName (ascii ['B', 'o', 'b'])) Memory.zeroed.beyond =
      ascii ['B', 'o', 'b'] := by
    decide +kernel
  rcases nickNameSanitising .m64 Memory.zeroed () server 1 current (.ofNickName (ascii ['B', 'o', 'b'])) found with
    ⟨unchecked, stored⟩
  refine ⟨server, next, current, ran, found, toOption_some handled, unchecked, ?_⟩
  rw [← requested]
  refine (stored next (toOption_some handled) (of_decide_eq_true free) room).mpr ?_
  rw [requested]
  decide

/-- A name of one control character is stored as it is. -/
theorem nickNameSanitising_bell :
    ∃ server next : Server Unit, ∃ current after, exec (step .m64) new [.addSession 1 (Field.zero _)] = some server ∧
      server.findSession 1 = some current ∧
      server.availableMessage .m64 Memory.zeroed () 1 (.nickname (.ofNickName [7#8])) = .ok next ∧
      ¬ ChecksStoredName .m64 Memory.zeroed () server 1 current (.ofNickName [7#8]) ∧
      next.findSession 1 = some after ∧ after.client.nickName = [7#8] := by
  have outcome : (exec (step .m64) (new : Server Unit) [.addSession 1 (Field.zero _)]).map (fun server =>
      ((server.findSession 1).isSome,
        (server.availableMessage .m64 Memory.zeroed () 1 (.nickname (.ofNickName [7#8]))).toOption.map fun next =>
          (next.findSession 1).map fun data => data.client.nickName)) = some (true, some (some [7#8])) := by
    decide +kernel
  rcases Option.map_eq_some_iff.mp outcome with ⟨server, ran, facts⟩
  rw [Prod.mk.injEq] at facts
  rcases Option.isSome_iff_exists.mp facts.1 with ⟨current, found⟩
  rcases Option.map_eq_some_iff.mp facts.2 with ⟨next, handled, stored⟩
  rcases Option.map_eq_some_iff.mp stored with ⟨after, there, bell⟩
  exact ⟨server, next, current, after, ran, found, toOption_some handled,
    fun checks => cString_verifiedNickName_ne Memory.zeroed _ checks.verified, there, bell⟩

end Server

end LanMessenger

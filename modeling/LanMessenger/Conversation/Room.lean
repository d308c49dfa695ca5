import Mathlib.Data.List.Sublists
import LanMessenger.Transition.Runs

/-! What a chat is for. A room hears what its members say, one saying after the other, and tells those who are in it;
between a member and the room there is a queue in each direction. Any members, names and texts. -/

namespace Room

open Transition

structure Saying (ι ν α : Type) where
  author : ι
  name : ν
  text : α

def Saying.row {ι ν α : Type} (saying : Saying ι ν α) : ν × α := (saying.name, saying.text)

/-- `way` has what the room is still to hear from the member, `due` what the member is still to hear. `joined` sayings
were over when the member came. -/
structure Member (ν α : Type) where
  typed : List α
  way : List α
  present : Bool
  joined : Nat
  due : List (ν × α)
  heard : List (ν × α)

@[ext] structure State (ι ν α : Type) where
  said : List (Saying ι ν α)
  members : ι → Option (Member ν α)

inductive Event (ι ν α : Type)
  | enter (member : ι)
  /-- The member's words are taken, or are lost. -/
  | type (member : ι) (text : α) (taken : Bool)
  /-- The room hears the member's next words, and each of the others takes them or loses them. -/
  | say (member : ι) (name : ν) (taken : ι → Bool)
  | hear (member : ι)
  /-- The member hears no more than the first of what was due. -/
  | leave (member : ι) (kept : Nat)

variable {ι ν α : Type} [DecidableEq ι]

namespace Member

def fresh (joined : Nat) : Member ν α := ⟨[], [], true, joined, [], []⟩

def told (member : Member ν α) (row : ν × α) (taken : Bool) : Member ν α :=
  if member.present && taken then { member with due := member.due ++ [row] } else member

end Member

namespace State

def empty : State ι ν α := ⟨[], fun _ => none⟩

def put (room : State ι ν α) (member : ι) (data : Member ν α) : State ι ν α :=
  { room with members := Function.update room.members member (some data) }

/-- The room after the member's words were heard. -/
def hears (room : State ι ν α) (member : ι) (name : ν) (text : α) (taken : ι → Bool) (data : Member ν α) : State ι ν α where
  said := room.said ++ [⟨member, name, text⟩]
  members peer :=
    if peer = member then some data
    else (room.members peer).map fun other => other.told (name, text) (taken peer)

def step (room : State ι ν α) : Event ι ν α → Option (State ι ν α)
  | .enter member => if (room.members member).isSome then none else some (room.put member (.fresh room.said.length))
  | .type member text taken => (room.members member).map fun data =>
      room.put member { data with typed := data.typed ++ [text], way := if taken then data.way ++ [text] else data.way }
  | .say member name taken =>
    match room.members member with
    | none => none
    | some data =>
      match data.present, data.way with
      | true, text :: rest => some (room.hears member name text taken { data with way := rest })
      | _, _ => none
  | .hear member =>
    match room.members member with
    | none => none
    | some data =>
      match data.due with
      | [] => none
      | row :: rest => some (room.put member { data with due := rest, heard := data.heard ++ [row] })
  | .leave member kept =>
    (room.members member).map fun data => room.put member { data with present := false, due := data.due.take kept }

theorem members_put (room : State ι ν α) (member peer : ι) (data : Member ν α) :
    (room.put member data).members peer = if peer = member then some data else room.members peer :=
  Function.update_apply ..

def words (room : State ι ν α) (member : ι) : List α :=
  (room.said.filter fun saying => saying.author = member).map Saying.text

def others (room : State ι ν α) (member : ι) (joined : Nat) : List (ν × α) :=
  ((room.said.drop joined).filter fun saying => saying.author ≠ member).map Saying.row

end State

variable {room next : State ι ν α} {member peer : ι} {data : Member ν α}

namespace State

theorem words_hears {name : ν} {text : α} {taken : ι → Bool} :
    (room.hears member name text taken data).words peer = room.words peer ++ if peer = member then [text] else [] := by
  by_cases own : peer = member
  · simp [words, hears, own]
  · simp [words, hears, own, Ne.symm own]

theorem others_hears {name : ν} {text : α} {taken : ι → Bool} {joined : Nat} (before : joined ≤ room.said.length) :
    (room.hears member name text taken data).others peer joined =
      room.others peer joined ++ if peer = member then [] else [(name, text)] := by
  by_cases own : peer = member
  · simp [others, hears, own, List.drop_append_of_le_length before]
  · simp [others, hears, own, Ne.symm own, List.drop_append_of_le_length before, Saying.row]

theorem others_all (room : State ι ν α) (member : ι) : room.others member room.said.length = [] := by
  rw [others, List.drop_length]
  rfl

/-- What the member has said is a part of what it typed, and what it hears a part of what the others say, in order. -/
structure Heeds (room : State ι ν α) (member : ι) (data : Member ν α) : Prop where
  way : (room.words member ++ data.way).Sublist data.typed
  due : (data.heard ++ data.due).Sublist (room.others member data.joined)
  joined : data.joined ≤ room.said.length

structure Ordered (room : State ι ν α) : Prop where
  known : ∀ saying ∈ room.said, (room.members saying.author).isSome = true
  heeds : ∀ member data, room.members member = some data → room.Heeds member data

theorem ordered_empty : (empty : State ι ν α).Ordered :=
  ⟨fun _ none => (List.not_mem_nil none).elim, fun _ _ there => by cases there⟩

theorem Ordered.put (ordered : room.Ordered) (heeds : room.Heeds member data) : (room.put member data).Ordered := by
  constructor
  · intro saying said
    have known := ordered.known saying said
    rw [members_put]
    split
    · rfl
    · exact known
  · intro peer other there
    rw [members_put] at there
    split at there
    · rename_i own
      subst own
      cases there
      exact ⟨heeds.way, heeds.due, heeds.joined⟩
    · have before := ordered.heeds peer other there
      exact ⟨before.way, before.due, before.joined⟩

theorem Ordered.words_eq_nil (ordered : room.Ordered) (unknown : room.members member = none) : room.words member = [] := by
  simp only [words, List.map_eq_nil_iff, List.filter_eq_nil_iff, decide_eq_true_eq]
  intro saying said own
  have known := ordered.known saying said
  rw [own, unknown] at known
  cases known

theorem Ordered.heeds_fresh (ordered : room.Ordered) (unknown : room.members member = none) :
    room.Heeds member (.fresh room.said.length) := by
  constructor
  · rw [ordered.words_eq_nil unknown]
    exact List.Sublist.refl _
  · rw [Member.fresh, others_all]
    exact List.Sublist.refl _
  · exact le_rfl

theorem Ordered.hears {name : ν} {text : α} {rest : List α} {taken : ι → Bool} (ordered : room.Ordered)
    (found : room.members member = some data) (waiting : data.way = text :: rest) :
    (room.hears member name text taken { data with way := rest }).Ordered := by
  have heeds := ordered.heeds member data found
  constructor
  · intro saying said
    simp only [State.hears] at said ⊢
    split
    · rfl
    · rename_i other
      rcases List.mem_append.mp said with earlier | now
      · rw [Option.isSome_map]
        exact ordered.known saying earlier
      · exact absurd (congrArg Saying.author (List.mem_singleton.mp now)) other
  · intro peer after there
    have longer : room.said.length ≤ (room.hears member name text taken { data with way := rest }).said.length := by
      simp [State.hears]
    simp only [State.hears] at there
    split at there
    · rename_i own
      cases there
      subst own
      constructor
      · rw [words_hears, if_pos rfl, List.append_assoc, List.singleton_append, ← waiting]
        exact heeds.way
      · rw [others_hears heeds.joined, if_pos rfl, List.append_nil]
        exact heeds.due
      · exact heeds.joined.trans longer
    · rename_i other
      rcases Option.map_eq_some_iff.mp there with ⟨before, was, rfl⟩
      have heeds := ordered.heeds peer before was
      constructor
      · rw [words_hears, if_neg other, List.append_nil, Member.told]
        split <;> exact heeds.way
      · rw [Member.told]
        split
        · rw [others_hears heeds.joined, if_neg other, ← List.append_assoc]
          exact heeds.due.append (List.Sublist.refl _)
        · rw [others_hears heeds.joined]
          exact heeds.due.trans (List.sublist_append_left _ _)
      · rw [Member.told]
        split <;> exact heeds.joined.trans longer

theorem Ordered.step {event : Event ι ν α} (ordered : room.Ordered) (stepped : room.step event = some next) :
    next.Ordered := by
  cases event with
  | enter member =>
    simp only [State.step] at stepped
    split at stepped
    · cases stepped
    · rename_i unknown
      cases stepped
      exact ordered.put (ordered.heeds_fresh (Option.not_isSome_iff_eq_none.mp unknown))
  | type member text taken =>
    rcases Option.map_eq_some_iff.mp stepped with ⟨data, found, rfl⟩
    have heeds := ordered.heeds member data found
    apply ordered.put
    refine ⟨?_, heeds.due, heeds.joined⟩
    show (room.words member ++ if taken = true then data.way ++ [text] else data.way).Sublist (data.typed ++ [text])
    split
    · rw [← List.append_assoc]
      exact heeds.way.append (List.Sublist.refl _)
    · exact heeds.way.trans (List.sublist_append_left _ _)
  | say member name taken =>
    simp only [State.step] at stepped
    split at stepped
    · cases stepped
    · rename_i data found
      split at stepped
      · rename_i text rest _ waiting
        cases stepped
        exact ordered.hears found waiting
      · cases stepped
  | hear member =>
    simp only [State.step] at stepped
    split at stepped
    · cases stepped
    · rename_i data found
      have heeds := ordered.heeds member data found
      split at stepped
      · cases stepped
      · rename_i row rest waiting
        cases stepped
        apply ordered.put
        refine ⟨heeds.way, ?_, heeds.joined⟩
        have due := heeds.due
        rw [waiting] at due
        rw [List.append_assoc]
        exact due
  | leave member kept =>
    rcases Option.map_eq_some_iff.mp stepped with ⟨data, found, rfl⟩
    have heeds := ordered.heeds member data found
    apply ordered.put
    refine ⟨heeds.way, ?_, heeds.joined⟩
    exact ((List.Sublist.refl _).append (List.take_sublist _ _)).trans heeds.due

/-- As long as it is there, the member has heard or is due all that was said since it came. -/
structure Complete (room : State ι ν α) (member : ι) (data : Member ν α) : Prop where
  way : room.words member ++ data.way = data.typed
  due : data.present = true → data.heard ++ data.due = room.others member data.joined

def Whole (room : State ι ν α) : Prop := ∀ member data, room.members member = some data → room.Complete member data

theorem Whole.put (whole : room.Whole) (complete : room.Complete member data) : (room.put member data).Whole := by
  intro peer other there
  rw [members_put] at there
  split at there
  · rename_i own
    subst own
    cases there
    exact ⟨complete.way, complete.due⟩
  · have before := whole peer other there
    exact ⟨before.way, before.due⟩

end State

def Lossless (_ : State ι ν α) : Event ι ν α → Prop
  | .type _ _ taken => taken = true
  | .say _ _ taken => ∀ peer, taken peer = true
  | _ => True

namespace State

theorem Whole.hears {name : ν} {text : α} {rest : List α} {taken : ι → Bool} (whole : room.Whole) (ordered : room.Ordered)
    (all : ∀ peer, taken peer = true) (found : room.members member = some data) (waiting : data.way = text :: rest) :
    (room.hears member name text taken { data with way := rest }).Whole := by
  intro peer after there
  simp only [State.hears] at there
  split at there
  · rename_i own
    cases there
    subst own
    have complete := whole peer data found
    constructor
    · rw [words_hears, if_pos rfl, List.append_assoc, List.singleton_append, ← waiting]
      exact complete.way
    · intro present
      rw [others_hears (ordered.heeds peer data found).joined, if_pos rfl, List.append_nil]
      exact complete.due present
  · rename_i other
    rcases Option.map_eq_some_iff.mp there with ⟨before, was, rfl⟩
    have complete := whole peer before was
    have joined := (ordered.heeds peer before was).joined
    constructor
    · rw [words_hears, if_neg other, List.append_nil, Member.told]
      split <;> exact complete.way
    · rw [Member.told, all peer, Bool.and_true]
      split
      · rename_i present
        intro _
        rw [others_hears joined, if_neg other, ← List.append_assoc, complete.due present]
      · rename_i gone
        exact fun present => absurd present gone

theorem Whole.step {event : Event ι ν α} (whole : room.Whole) (ordered : room.Ordered) (lossless : Lossless room event)
    (stepped : room.step event = some next) : next.Whole := by
  cases event with
  | enter member =>
    simp only [State.step] at stepped
    split at stepped
    · cases stepped
    · rename_i unknown
      cases stepped
      have silent := ordered.words_eq_nil (Option.not_isSome_iff_eq_none.mp unknown)
      exact whole.put ⟨by rw [silent]; rfl, fun _ => by rw [Member.fresh, others_all]; rfl⟩
  | type member text taken =>
    rcases Option.map_eq_some_iff.mp stepped with ⟨data, found, rfl⟩
    have complete := whole member data found
    have taken : taken = true := lossless
    apply whole.put
    refine ⟨?_, complete.due⟩
    simp only [taken, if_true]
    rw [← List.append_assoc, complete.way]
  | say member name taken =>
    simp only [State.step] at stepped
    split at stepped
    · cases stepped
    · rename_i data found
      split at stepped
      · rename_i text rest _ waiting
        cases stepped
        exact whole.hears ordered lossless found waiting
      · cases stepped
  | hear member =>
    simp only [State.step] at stepped
    split at stepped
    · cases stepped
    · rename_i data found
      have complete := whole member data found
      split at stepped
      · cases stepped
      · rename_i row rest waiting
        cases stepped
        apply whole.put
        refine ⟨complete.way, fun present => ?_⟩
        have due := complete.due present
        rw [waiting] at due
        rw [List.append_assoc]
        exact due
  | leave member kept =>
    rcases Option.map_eq_some_iff.mp stepped with ⟨data, found, rfl⟩
    exact whole.put ⟨(whole member data found).way, fun present => by cases present⟩

end State

/-- One order for all: each hears a part of what was said, in the order in which it was said. -/
theorem ordered_run {events : List (Event ι ν α)} (run : Run State.step Always .empty events room) : room.Ordered :=
  run.invariant State.Ordered State.ordered_empty fun _ _ _ ordered _ stepped => ordered.step stepped

theorem whole_run {events : List (Event ι ν α)} (run : Run State.step Lossless .empty events room) : room.Whole := by
  have both : room.Ordered ∧ room.Whole := by
    refine run.invariant (fun room => room.Ordered ∧ room.Whole) ⟨State.ordered_empty, fun _ _ there => by cases there⟩ ?_
    exact fun _ _ _ holds lossless stepped => ⟨holds.1.step stepped, holds.2.step holds.1 lossless stepped⟩
  exact both.2

end Room

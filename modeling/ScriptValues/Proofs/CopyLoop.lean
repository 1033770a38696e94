import ScriptValues.CopyLoop
import ScriptValues.Proofs.Primitive.Members

namespace ScriptValues.CopyLoop
open Value

variable {host : Host} {x : Value}

theorem Ends.unique {state final other : State} {turns others : Nat} {calls made : List Call}
    (ends : Ends host state turns calls final) (too : Ends host state others made other) :
    others = turns ∧ made = calls ∧ other = final := by
  induction ends generalizing others made other with
  | here finished =>
      cases too with
      | here _ => exact ⟨rfl, rfl, rfl⟩
      | later unfinished _ => rw [finished] at unfinished; cases unfinished
  | later unfinished _ ih =>
      cases too with
      | here finished => rw [finished] at unfinished; cases unfinished
      | later _ too =>
          obtain ⟨rfl, rfl, rfl⟩ := ih too
          exact ⟨rfl, rfl, rfl⟩

theorem Ends.iff {state final other : State} {turns others : Nat} {calls made : List Call}
    (ends : Ends host state turns calls final) :
    Ends host state others made other ↔ others = turns ∧ made = calls ∧ other = final := by
  refine ⟨ends.unique, ?_⟩
  rintro ⟨rfl, rfl, rfl⟩
  exact ends

theorem invoke_len (sequence : x.IsSequence) (short : x.members.length < 0x8000000000000000) :
    Primitive.len.native.invoke host [x] = .ok (.integer (Int64.ofNat x.members.length)) :=
  Primitive.lenOf_of_sequence sequence short

theorem invoke_first (sequence : x.IsSequence) {item : Value} {items : List Value}
    (members : x.members = item :: items) : Primitive.first.native.invoke host [x] = .ok item := by
  have taken := Primitive.firstOf_of_sequence sequence
  rwa [members] at taken

theorem invoke_push (copied : List Value) (item : Value) :
    Primitive.push.native.invoke host [.array copied, item] = .ok (.array (copied ++ [item])) := rfl

theorem invoke_rest (sequence : x.IsSequence) (left : x.members ≠ []) :
    Primitive.rest.native.invoke host [x] = .ok (x.dropMembers 1) :=
  Primitive.restOf_of_members_ne_nil sequence left

theorem reply_of_invoke_eq_ok {call : Call} {value : Value}
    (done : call.function.invoke host call.arguments = .ok value) : call.reply host = value :=
  congrArg ofOutcome done

theorem invoke_eq_ok_reply {call : Call} {value : Value}
    (done : call.function.invoke host call.arguments = .ok value) :
    call.function.invoke host call.arguments = .ok (call.reply host) := by
  rw [reply_of_invoke_eq_ok done, done]

theorem finished_eq (host : Host) (sequence : x.IsSequence)
    (short : x.members.length < 0x8000000000000000) (copy : Value) :
    (State.mk x copy).finished host = x.members.isEmpty := by
  have measured : (State.mk x copy).measuring.reply host = _ :=
    reply_of_invoke_eq_ok (invoke_len sequence short)
  have count := Int64.toInt_ofNat_of_lt short
  rw [State.finished, measured]
  cases members : x.members with
  | nil => rfl
  | cons item items =>
      rw [members] at count
      have positive : (Int64.ofNat (item :: items).length == 0) = false := by
        refine beq_eq_false_iff_ne.mpr fun zero => ?_
        rw [zero, Int64.toInt_zero, List.length_cons] at count
        omega
      exact positive

theorem next_eq (sequence : x.IsSequence) {item : Value} {items : List Value}
    (members : x.members = item :: items) (copied : List Value) :
    (State.mk x (.array copied)).next host = ⟨x.dropMembers 1, .array (copied ++ [item])⟩ := by
  have taken : (State.mk x (.array copied)).taking.reply host = item :=
    reply_of_invoke_eq_ok (invoke_first sequence members)
  have rested : (State.mk x (.array copied)).resting.reply host = x.dropMembers 1 :=
    reply_of_invoke_eq_ok (invoke_rest sequence (by simp [members]))
  have pushed : ((State.mk x (.array copied)).pushing host).reply host = .array (copied ++ [item]) := by
    rw [State.pushing, taken]
    exact reply_of_invoke_eq_ok (invoke_push copied item)
  rw [State.next, rested, pushed]

theorem ends_of_members (host : Host) (sequence : x.IsSequence) {items : List Value}
    (members : x.members = items) (short : items.length < 0x8000000000000000)
    (copied : List Value) :
    ∃ calls, Ends host ⟨x, .array copied⟩ items.length calls
        ⟨x.dropMembers items.length, .array (copied ++ items)⟩ ∧
      ∀ call ∈ calls, call.function.invoke host call.arguments = .ok (call.reply host) := by
  -- The induction is on the members that are left; those that have passed are in the copy.
  induction items generalizing x copied with
  | nil =>
      have finished := finished_eq host sequence (members ▸ short) (.array copied)
      rw [members] at finished
      rw [List.length_nil, dropMembers_zero, List.append_nil]
      exact ⟨_, .here finished,
        List.forall_mem_singleton.mpr (invoke_eq_ok_reply (invoke_len sequence (members ▸ short)))⟩
  | cons item items ih =>
      have unfinished := finished_eq host sequence (members ▸ short) (.array copied)
      rw [members] at unfinished
      have left : (x.dropMembers 1).members = items := by
        rw [members_dropMembers, members, List.drop_one, List.tail_cons]
      obtain ⟨calls, ends, done⟩ := ih (sequence.dropMembers 1) left
        (Nat.lt_of_succ_lt short) (copied ++ [item])
      rw [← next_eq sequence members, dropMembers_dropMembers, Nat.add_comm 1,
        List.append_assoc] at ends
      refine ⟨_, .later unfinished ends, ?_⟩
      simp only [List.forall_mem_cons]
      exact ⟨invoke_eq_ok_reply (invoke_len sequence (members ▸ short)),
        invoke_eq_ok_reply (invoke_first sequence members),
        invoke_eq_ok_reply (invoke_push copied _),
        invoke_eq_ok_reply (invoke_rest sequence (by simp [members])), done⟩

theorem reply_last_eq_first (host : Host) (sequence : x.IsSequence) :
    Primitive.last.native.reply host [x] =
      Primitive.first.native.reply host
        [(fun x => Primitive.rest.native.reply host [x])^[x.members.length - 1] x] := by
  have ending : Primitive.lastOf x = Primitive.firstOf (x.dropMembers (x.members.length - 1)) := by
    rw [Primitive.lastOf_of_sequence sequence,
      Primitive.firstOf_of_sequence (sequence.dropMembers _), members_dropMembers, List.head?_drop,
      List.getLast?_eq_getElem?]
  rw [Primitive.iterate_rest sequence (Nat.sub_le _ _)]
  exact congrArg ofOutcome ending

/-- The copy of an array is that array, and the copy of a string is the array of its letters. The
loop ends in one way only, after one turn for each member and with an empty sequence of the same
kind, and every call that it makes has a result. The last member is the first one of the sequence
when the members before it have been passed by. -/
theorem copies_every_member (host : Host) :
    (∀ items : List Value, items.length < 0x8000000000000000 → ∃ calls,
      (∀ turns made final, Ends host (.start (.array items)) turns made final ↔
        turns = items.length ∧ made = calls ∧ final = ⟨.array [], .array items⟩) ∧
      ∀ call ∈ calls, call.function.invoke host call.arguments = .ok (call.reply host)) ∧
    (∀ bytes : List UInt8, bytes.length < 0x8000000000000000 →
      ∃ (calls : List Call) (parts : List (List UInt8)),
      (∀ turns made final, Ends host (.start (.string bytes)) turns made final ↔
        turns = bytes.length ∧ made = calls ∧
          final = ⟨.string [], .array (parts.map Value.string)⟩) ∧
      (∀ part ∈ parts, part.length = 1) ∧ parts.flatten = bytes ∧
      ∀ call ∈ calls, call.function.invoke host call.arguments = .ok (call.reply host)) ∧
    (∀ x : Value, x.IsSequence →
      Primitive.last.native.reply host [x] =
        Primitive.first.native.reply host
          [(fun x => Primitive.rest.native.reply host [x])^[x.members.length - 1] x]) := by
  refine ⟨fun items short => ?_, fun bytes short => ?_, fun x => reply_last_eq_first host⟩
  · obtain ⟨calls, ends, done⟩ := ends_of_members host (.array items) rfl short []
    rw [members, dropMembers, List.drop_length] at ends
    exact ⟨calls, fun _ _ _ => ends.iff, done⟩
  · have size := length_letters bytes
    obtain ⟨calls, ends, done⟩ := ends_of_members host (.string bytes) rfl
      (Nat.lt_of_le_of_lt (Nat.le_of_eq size) short) []
    rw [members, size, dropMembers, List.drop_length, letters_eq_map_string] at ends
    refine ⟨calls, _, fun _ _ _ => ends.iff, ?_, ?_, done⟩
    · simp
    · simp [← List.flatMap_def]

theorem copies_every_member_at_odd_members :
    let host : Host := fun _ _ => .ok .null
    let row : List Value := [.null, .error (.custom "boom"), .array []]
    let bytes : List UInt8 := [0x61, 0xC3]
    (row.length < 0x8000000000000000 ∧ ∃ calls,
      Ends host (.start (.array row)) 3 calls ⟨.array [], .array row⟩ ∧
        ∀ call ∈ calls, call.function.invoke host call.arguments = .ok (call.reply host)) ∧
    (bytes.length < 0x8000000000000000 ∧ ∃ (calls : List Call) (parts : List (List UInt8)),
      Ends host (.start (.string bytes)) 2 calls ⟨.string [], .array (parts.map Value.string)⟩ ∧
        parts.flatten = bytes) ∧
    ((Value.array row).IsSequence ∧
      Primitive.last.native.reply host [.array row] =
        Primitive.first.native.reply host
          [(fun x => Primitive.rest.native.reply host [x])^[2] (.array row)]) := by
  intro host row bytes
  obtain ⟨arrays, strings, ends⟩ := copies_every_member host
  obtain ⟨calls, only, done⟩ := arrays row (by decide)
  obtain ⟨made, parts, onlyToo, -, whole, -⟩ := strings bytes (by decide)
  exact ⟨⟨by decide, calls, (only _ _ _).mpr ⟨rfl, rfl, rfl⟩, done⟩,
    ⟨by decide, made, parts, (onlyToo _ _ _).mpr ⟨rfl, rfl, rfl⟩, whole⟩,
    .array row, ends _ (.array row)⟩

end ScriptValues.CopyLoop

/-!
# Accesses

An access is what comes of an operation on a storage: its result, and the
ranges of the underlying bytes that it asked for, in order.  A range counts
when it was asked for, even if the bytes are not there.  That the program may
stop on the way is told by guarded operations, which come to accesses.
-/

namespace Gamecard

structure Extent where
  offset : Nat
  length : Nat
deriving DecidableEq

/-- The result of an operation, and what it read. -/
structure Access (ε α : Type) where
  result : Except ε α
  reads : List Extent

namespace Access

variable {ε δ α β : Type}

def fail (error : ε) : Access ε α :=
  ⟨.error error, []⟩

def ofExcept (result : Except ε α) : Access ε α :=
  ⟨result, []⟩

/-- One operation and, if it succeeds, another one on its value. -/
def andThen (access : Access ε α) (next : α → Access ε β) : Access ε β :=
  match access.result with
  | .error error => ⟨.error error, access.reads⟩
  | .ok value => ⟨(next value).result, access.reads ++ (next value).reads⟩

instance : Monad (Access ε) where
  pure value := ⟨.ok value, []⟩
  bind := andThen

def mapError (change : ε → δ) (access : Access ε α) : Access δ α :=
  ⟨access.result.mapError change, access.reads⟩

/-- The operation as one that cannot fail, its outcome being its value. -/
def attempt (access : Access ε α) : Access δ (Except ε α) :=
  ⟨.ok access.result, access.reads⟩

@[simp] theorem result_pure (value : α) : (pure value : Access ε α).result = .ok value :=
  rfl

@[simp] theorem reads_pure (value : α) : (pure value : Access ε α).reads = [] :=
  rfl

@[simp] theorem result_fail (error : ε) : (fail error : Access ε α).result = .error error :=
  rfl

@[simp] theorem reads_fail (error : ε) : (fail error : Access ε α).reads = [] :=
  rfl

theorem result_bind (access : Access ε α) (next : α → Access ε β) :
    (access >>= next).result = access.result.bind fun value => (next value).result := by
  cases access with
  | mk result reads => cases result <;> rfl

theorem result_bind_of_eq_ok {access : Access ε α} {value : α} (given : access.result = .ok value)
    (next : α → Access ε β) : (access >>= next).result = (next value).result := by
  rw [result_bind, given]
  rfl

/-- An operation that ends well consists of two that do. -/
theorem exists_of_result_bind {access : Access ε α} {next : α → Access ε β} {result : β}
    (done : (access >>= next).result = .ok result) :
    ∃ value, access.result = .ok value ∧ (next value).result = .ok result := by
  rw [result_bind] at done
  cases first : access.result with
  | error error =>
      rw [first] at done
      cases done
  | ok value =>
      rw [first] at done
      exact ⟨value, rfl, done⟩

theorem reads_bind (access : Access ε α) (next : α → Access ε β) :
    (access >>= next).reads = access.reads ++
      match access.result with
      | .error _ => []
      | .ok value => (next value).reads := by
  cases access with
  | mk result reads =>
    cases result with
    | error error => exact (List.append_nil reads).symm
    | ok value => rfl

@[simp] theorem result_mapError (change : ε → δ) (access : Access ε α) :
    (access.mapError change).result = access.result.mapError change :=
  rfl

theorem result_mapError_of_eq_ok {access : Access ε α} {value : α}
    (given : access.result = .ok value) (change : ε → δ) :
    (access.mapError change).result = .ok value := by
  rw [result_mapError, given]
  rfl

@[simp] theorem reads_mapError (change : ε → δ) (access : Access ε α) :
    (access.mapError change).reads = access.reads :=
  rfl

end Access

end Gamecard

import Postbox.Token

namespace Postbox

/-!
# How an answer is taken

The status of an answer decides whether its text is looked at, and the text whether there is a
token in it.

* `Response.isSuccess_iff` — which statuses count as a success.
* `Token.ofResponse_of_some`, `Token.ofResponse_of_none`, `Token.ofResponse_of_status` — the three
  ways an answer can be taken.
* `Token.ofResponse_eq_ok_iff` — when it gives a token.
-/

/-- A success has one of a hundred statuses. -/
theorem Response.isSuccess_iff {r : Response} :
    r.isSuccess = true ↔ 200 ≤ r.status ∧ r.status ≤ 299 := by
  rw [isSuccess, Bool.and_eq_true, decide_eq_true_eq, decide_eq_true_eq]
  omega

namespace Token

variable {r : Response} {t : Token}

/-- A success with a token gives it. -/
theorem ofResponse_of_some (h : r.isSuccess = true) (ht : read? r.body = some t) :
    ofResponse r = .ok t := by
  rw [ofResponse, if_pos h, ofBody, ht]

/-- A success without a token fails for the lack of it. -/
theorem ofResponse_of_none (h : r.isSuccess = true) (ht : read? r.body = none) :
    ofResponse r = .error (missing r.body) := by
  rw [ofResponse, if_pos h, ofBody, ht]

/-- Any other status is a failure of its own. -/
theorem ofResponse_of_status (h : ¬r.isSuccess = true) :
    ofResponse r = .error (.protocol r.status r.body) := by
  rw [ofResponse, if_neg h]

/-- An answer gives a token exactly if its status is a success and its text has that token. -/
theorem ofResponse_eq_ok_iff :
    ofResponse r = .ok t ↔ r.isSuccess = true ∧ read? r.body = some t := by
  constructor
  · intro h
    by_cases hs : r.isSuccess = true
    · cases ht : read? r.body with
      | none =>
        rw [ofResponse_of_none hs ht] at h
        cases h
      | some u =>
        rw [ofResponse_of_some hs ht] at h
        cases h
        exact ⟨hs, rfl⟩
    · rw [ofResponse_of_status hs] at h
      cases h
  · rintro ⟨hs, ht⟩
    exact ofResponse_of_some hs ht

end Token

end Postbox

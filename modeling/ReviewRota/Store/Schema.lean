/-
  ReviewRota — the tables.

  How the rows of a store are laid out in a database: five tables with their
  columns, the columns of their keys, and further indexes.

  * `Table` describes a table, and `schema` lists them by name.
-/
namespace ReviewRota.Store

/-- A table; its columns and indexes by name. -/
structure Table where
  name : String
  columns : List String
  key : List String
  indexes : List String := []
  deriving DecidableEq, Repr

/-- All tables. -/
def schema : List Table :=
  [{ name := "pr_reassignment_history"
     columns := ["changed_at", "id", "new_reviewer_id", "old_reviewer_id", "pr_id"]
     key := ["id"]
     indexes := ["ix_pr_reassignment_history_pr_id"] },
   { name := "pr_reviewers"
     columns := ["assigned_at", "pr_id", "reviewer_id"]
     key := ["pr_id", "reviewer_id"]
     indexes := ["ix_pr_reviewers_reviewer_id"] },
   { name := "pull_requests"
     columns := ["author_id", "created_at", "id", "merged_at", "name", "status"]
     key := ["id"]
     indexes := ["ix_pull_requests_created_at", "ix_pull_requests_status"] },
   { name := "teams"
     columns := ["created_at", "id", "name", "updated_at"]
     key := ["id"] },
   { name := "users"
     columns := ["created_at", "id", "is_active", "team_id", "updated_at", "username"]
     key := ["id"]
     indexes := ["ix_users_team_active", "ix_users_team_id"] }]

end ReviewRota.Store

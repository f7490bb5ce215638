import HttpClient.Auth.Negotiator

/-!
# The arena of connection states

Negotiator state parked under the connection it belongs to. A request takes the entry of a
connection out when it binds it, whether or not the entry is for its realm, and parks its own
state when it is done; the entries of closed connections are removed.
-/

namespace HttpClient

/-- The number of a connection. -/
abbrev ConnId := Nat

/-- A parked negotiator and the realm it was made for. -/
structure Parked where
  conn : ConnId
  realm : RealmKey
  negotiator : Negotiator
  deriving DecidableEq, Repr

/-- The parked negotiators, at most one for a connection. -/
structure Arena where
  entries : List Parked := []
  deriving DecidableEq, Repr

namespace Arena

/-- The entry of a connection. -/
def find? (a : Arena) (conn : ConnId) : Option Parked := a.entries.find? (·.conn == conn)

/-- The arena without the entry of a connection. -/
def remove (a : Arena) (conn : ConnId) : Arena := ⟨a.entries.filter (·.conn != conn)⟩

/-- The arena without the entries of several connections. -/
def removeAll (a : Arena) (conns : List ConnId) : Arena := conns.foldl remove a

/-- Takes the entry of a connection out; its state is handed over only for the same realm. -/
def take (a : Arena) (conn : ConnId) (realm : RealmKey) : Option Negotiator × Arena :=
  match a.find? conn with
  | some entry => (if entry.realm = realm then some entry.negotiator else none, a.remove conn)
  | none => (none, a)

/-- Parks the state of a connection, in place of what was parked there. -/
def put (a : Arena) (conn : ConnId) (realm : RealmKey) (negotiator : Negotiator) : Arena :=
  ⟨(a.remove conn).entries ++ [⟨conn, realm, negotiator⟩]⟩

/-- How many connections have an entry. -/
def size (a : Arena) : Nat := a.entries.length

end Arena

end HttpClient

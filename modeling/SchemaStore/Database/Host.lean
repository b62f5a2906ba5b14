import SchemaStore.Database.Altering

/-!
# Hosts

A `Host` keeps the databases of a folder by the names of their files and answers
the requests of programs.  A database comes into being when a connection to it
is opened for the first time; there are no folders within the folder.  A
database in memory belongs to one pool and is gone when the pool is disposed of.
-/

namespace SchemaStore

/-- What the connections of a pool lead to. -/
inductive PoolTarget where
  | server
  /-- A database in a file. -/
  | file (path : String)
  /-- A database in memory. -/
  | memory (database : Database)

/-- The databases of a folder, and what pools are connected to. -/
structure Host where
  databases : Record Database := []
  /-- The target of each pool, in the order in which they were opened. -/
  pools : List PoolTarget := []
  clock : Moment

namespace Database

def execute (database : Database) :
    Statement → Except Failure Result × Database
  | .select query =>
      ((query.rows database.tables).map fun rows => { rows }, database)
  | .count table criteria =>
      let query : Select := { table, outputs := [], criteria }
      ((query.size database.tables).map fun n => { scalar := .int n }, database)
  | .countOf query =>
      ((query.size database.tables).map fun n => { scalar := .int n }, database)
  | .write change =>
      match change.perform database.tables database.now with
      | .ok (tables, result) => (.ok result, { database with pending := some tables })
      | .error failure => (.error failure, database)

/-- Make the current write permanent. -/
def commit (database : Database) : Database :=
  { database with tables := database.pending.getD database.tables, pending := none }

/-- Undo the current write. -/
def rollback (database : Database) : Database :=
  { database with pending := none }

end Database

namespace Host

/-- The parts of a path without those that another part takes back; `done` are the parts so far,
the last one first. -/
def plainParts (done : List String) : List String → List String
  | [] => done.reverse
  | part :: rest =>
      if isIdlePart part then plainParts done rest
      else
        match part, done with
        | "..", last :: before =>
            if last == ".." then plainParts (part :: done) rest else plainParts before rest
        | _, _ => plainParts (part :: done) rest

/-- The file that a path names, unless it lies in a folder that does not exist. -/
def fileOf? (path : String) : Option String :=
  let parts := plainParts [] (pathParts path)
  match parts.getLast? with
  | some file =>
      if (pathRoot path).isEmpty && file != ".." && parts.dropLast.all (· == "..") &&
          file.utf8ByteSize ≤ maxPartSize then
        some (Text.joinWith "/" parts)
      else
        none
  | none => none

/-- A server that cannot be reached. -/
def unreachableServer : Failure :=
  .access {
    kind := .statement
    label := "OperationalError"
    message := ""
    driver := some { args := [.int 2003, .text "Can't connect to MySQL server"] } }

def cannotOpen : Failure :=
  .reported "OperationalError" "SQLITE_CANTOPEN" "unable to open database file"

/-- Make a pool. -/
def openPool (host : Host) (datasource : Datasource) (settings : Settings) :
    Except Failure Nat × Host :=
  match datasource.connectionPlan settings {} with
  | .error failure => (.error failure, host)
  | .ok plan =>
      let target : PoolTarget := match plan.provider, plan.url.database with
        | .mysql, _ | .sqlite, none => .server
        | .sqlite, some ":memory:" => .memory { clock := host.clock }
        | .sqlite, some path => .file path
      (.ok host.pools.length, { host with pools := host.pools ++ [target] })

def databaseAt (host : Host) (file : String) : Database :=
  (host.databases.get? file).getD { clock := host.clock }

/-- Do something with the database of a pool. -/
def onDatabase {α : Type} (host : Host) (pool : Nat)
    (step : Database → Except Failure α × Database) : Except Failure α × Host :=
  match host.pools[pool]? with
  | none | some .server => (.error unreachableServer, host)
  | some (.memory database) =>
      let (reply, database) := step database
      (reply, { host with pools := host.pools.set pool (.memory database) })
  | some (.file path) =>
      if path.toList.contains '\x00' then (.error (.unreadableFile .broken), host)
      else
        match fileOf? path with
        | none => (.error cannotOpen, host)
        | some file =>
            let (reply, database) := step (host.databaseAt file)
            (reply, { host with databases := host.databases.put file database })

/-- Close the connections of a pool. -/
def disposePool (host : Host) (pool : Nat) : Host :=
  match host.pools[pool]? with
  | some (.memory _) =>
      { host with pools := host.pools.set pool (.memory { clock := host.clock }) }
  | _ => host

/-- Do something with the database of a pool that cannot fail. -/
def update (host : Host) (pool : Nat) (step : Database → Database) : Host :=
  (host.onDatabase pool fun database => (.ok (), step database)).2

/-- The answers of a host. -/
def backend : Backend Host
  | .openPool datasource settings, host => host.openPool datasource settings
  | .ping pool, host => host.onDatabase pool fun database => (.ok (), database)
  | .disposePool pool, host => ((), host.disposePool pool)
  | .execute pool statement, host => host.onDatabase pool (·.execute statement)
  | .commit pool, host => host.onDatabase pool fun database => (.ok (), database.commit)
  | .rollback pool, host => ((), host.update pool Database.rollback)
  | .inspect pool table, host =>
      host.onDatabase pool fun database =>
        (Database.inspect database.tables table, database)
  | .alter pool schema action, host =>
      host.onDatabase pool fun database =>
        match Database.alter database.tables schema action with
        | .ok tables => (.ok (), { database with tables })
        | .error failure => (.error failure, database)
  | .lock .., host => (.ok ⟨0, .int 0⟩, host)
  | .unlock .., host => (.ok (), host)

end Host
end SchemaStore

import ValidatorSigner.FixedBytes
import ValidatorSigner.Store.Fault

/-! # The tables

Rows hold what a database can hold: signed 64-bit numbers and byte strings of any length. A row
need not make sense; reading it decides. A database lists the tables that have not been installed,
knows whether its changes go to a log of their own first, and whether it is open for reading only.
-/
namespace ValidatorSigner.Store

structure ValidatorRow where
  id : Int
  key : PublicKey
deriving DecidableEq

structure BlockRow where
  validator : Int
  slot : Int
  root : List UInt8
deriving DecidableEq, Repr

structure AttestationRow where
  validator : Int
  source : Int
  target : Int
  root : List UInt8
deriving DecidableEq, Repr

structure WatermarkRow where
  validator : Int
  slot : Int
  source : Int
  target : Int
deriving DecidableEq, Repr

/-- The contents of all tables, rows in the order of their insertion. -/
structure Tables where
  validators : List ValidatorRow := []
  blocks : List BlockRow := []
  attestations : List AttestationRow := []
  watermarks : List WatermarkRow := []
  genesis : Option (List UInt8) := none
  version : Option Int := none
deriving DecidableEq

structure Database where
  tables : Tables := {}
  missing : List Table := []
  /-- Whether changes are written to a log first, which takes memory that connections share. -/
  writeAhead : Bool := false
  readOnly : Bool := false
deriving DecidableEq

namespace Database

def blank : Database := { missing := Table.all }

def expectedVersion : Int := 1

def install (db : Database) : Database :=
  { db with missing := [], tables := { db.tables with version := some expectedVersion } }

def fresh : Database := blank.install

end Database
end ValidatorSigner.Store

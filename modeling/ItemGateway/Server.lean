import ItemGateway.Text.Blank
import ItemGateway.Text.Quoted

namespace ItemGateway

def defaultDriver : String := "sqlite"

structure Server where
  id : String
  url : String := ""
  user : String := ""
  password : String := ""
  driver : String := defaultDriver
  deriving DecidableEq, Repr

namespace Server

def missing (s : Server) : List String :=
  ([("url", s.url), ("user", s.user), ("password", s.password)].filter
    fun f => Text.allBlank f.2).map Prod.fst

def isComplete (s : Server) : Bool :=
  s.missing.isEmpty

def display (s : Server) : String :=
  "server [id=" ++ s.id ++ ", url=" ++ s.url ++ ", user=" ++ s.user ++ ", driver=" ++ s.driver ++ "]"

def debug (s : Server) : String :=
  "ServerDescriptor \x7b server_id: " ++ Text.quoted s.id ++ ", url: " ++ Text.quoted s.url ++
    ", user: " ++ Text.quoted s.user ++ ", password: " ++ Text.quoted "***" ++
    ", driver: " ++ Text.quoted s.driver ++ " \x7d"

def dropMark (mark s : List Char) : List Char :=
  (mark.isPrefixOf? s).getD s

/-- A path, or `none` for a database in memory. -/
def databasePath (url : String) : Option String :=
  let path := dropMark "//".toList (dropMark "sqlite:".toList url.toList)
  if path = ":memory:".toList then none else some (String.ofList path)

end Server

end ItemGateway

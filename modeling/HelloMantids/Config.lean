import Mathlib.Data.List.Basic

/-! The configuration read from `config.ini`. A value has a default that stands for a
missing entry and for one that does not convert, or is required. How the library
converts texts to numbers and flags stays a parameter. -/
namespace HelloMantids

structure Translators where
  bool? : String → Option Bool
  uint16? : String → Option Nat

structure LocalIni where
  entries : List (String × String)
  deriving DecidableEq, Repr

def LocalIni.get? (ini : LocalIni) (path : String) : Option String := ini.entries.lookup path

def getString (ini : LocalIni) (path default : String) : String := (ini.get? path).getD default

def getBool (V : Translators) (ini : LocalIni) (path : String) (default : Bool) : Bool :=
  ((ini.get? path).bind V.bool?).getD default

def getUInt16 (V : Translators) (ini : LocalIni) (path : String) (default : Nat) : Nat :=
  ((ini.get? path).bind V.uint16?).getD default

namespace Config
variable (V : Translators) (ini : LocalIni)

def logsToSyslog : Bool := getBool V ini "Logs.ToSyslog" true
def logsShowColors : Bool := getBool V ini "Logs.ShowColors" true
def logsShowDate : Bool := getBool V ini "Logs.ShowDate" true
def logsDebug : Bool := getBool V ini "Logs.Debug" false

def loginRPCApiKey : String := getString ini "LoginRPCClient.ApiKey" "REPLACEME_XABCXAPIX_LOGIN"
def loginRPCTLSCAFilePath : String := getString ini "LoginRPCClient.CAFile" "../keys/loginrpc_ca.crt"
def loginRPCAppName : String := getString ini "LoginRPCClient.AppName" "HELLOMANTIDS"
def loginRPCRemoteHost : String := getString ini "LoginRPCClient.RemoteHost" "127.0.0.1"
def loginRPCRemotePort : Nat := getUInt16 V ini "LoginRPCClient.RemotePort" 30302
def loginRPCUsePSK : Bool := getBool V ini "LoginRPCClient.UsePSK" true
def loginRPCUseIPv6 : Bool := getBool V ini "LoginRPCClient.ipv6" false

def rpcServerListenPort : Nat := getUInt16 V ini "RPCServer.ListenPort" 10444
def rpcServerMaxClients : Nat := getUInt16 V ini "RPCServer.MaxClients" 512
def rpcServerListenAddr : String := getString ini "RPCServer.ListenAddr" "0.0.0.0"
def rpcServerUseIPv6 : Bool := getBool V ini "RPCServer.ipv6" false
def rpcServerTLSCAFilePath : String := getString ini "RPCServer.CAFile" "../keys/ca.crt"
def rpcServerTLSCertFilePath : String := getString ini "RPCServer.CertFile" "../keys/master.crt"
def rpcServerTLSKeyFilePath : String := getString ini "RPCServer.KeyFile" "../keys/master.key"

def webServerTLSCertFilePath : String := getString ini "WebServer.CertFile" "../keys/web_snakeoil.crt"
def webServerTLSKeyFilePath : String := getString ini "WebServer.KeyFile" "../keys/web_snakeoil.key"
def webServerListenPort : Nat := getUInt16 V ini "WebServer.ListenPort" 10443
def webServerListenAddr : String := getString ini "WebServer.ListenAddr" "0.0.0.0"
def webServerResourcesPath : String := getString ini "WebServer.ResourcesPath" "/var/www/hellomantids"
def webServerUseIPv6 : Bool := getBool V ini "WebServer.ipv6" false

def databasePort : Nat := getUInt16 V ini "Database.DbPort" 3306
def databaseDbName : String := getString ini "Database.DbName" "hellomantids"

-- The required ones: none is the library's exception.
def databaseHost? : Option String := ini.get? "Database.DbHost"
def databaseDbUser? : Option String := ini.get? "Database.DbUser"
def databaseDbPass? : Option String := ini.get? "Database.DbPass"

end Config
end HelloMantids

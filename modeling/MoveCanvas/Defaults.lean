import MoveCanvas.Json.Decode

/-! # Defaults

What the compiler puts in place of data that a canvas does not state. Any part may be overridden
by a JSON object; the parts it leaves out keep their built-in values. -/

namespace MoveCanvas

open Json (Shape Fields Presence DecodeError)

@[ext]
structure Defaults where
  witnessName : String := "MY_COIN"
  coinDecimals : UInt8 := 9
  coinSymbol : String := "SYM"
  coinName : String := "My Coin"
  coinDescription : String := ""
  placeholderBody : String := "// logic not generated"
  packageVersion : String := "0.0.1"
  frameworkGit : String := "https://github.com/MystenLabs/sui.git"
  frameworkSubdir : String := "crates/sui-framework/packages/sui-framework"
  frameworkRev : String := "framework/testnet"
  packageAddress : String := "0x0"
deriving DecidableEq, Repr

namespace Defaults

def builtIn : Defaults := {}

def shape : Shape :=
  .record "CodegenDefaults"
    (.cons "witnessName" [] .optional .text
    (.cons "coinDecimals" [] .optional .byte
    (.cons "coinSymbol" [] .optional .text
    (.cons "coinName" [] .optional .text
    (.cons "coinDescription" [] .optional .text
    (.cons "placeholderBody" [] .optional .text
    (.cons "packageVersion" [] .optional .text
    (.cons "frameworkGit" [] .optional .text
    (.cons "frameworkSubdir" [] .optional .text
    (.cons "frameworkRev" [] .optional .text
    (.cons "packageAddress" [] .optional .text .nil)))))))))))

def ofRecord : shape.Val → Defaults
  | (witnessName, coinDecimals, coinSymbol, coinName, coinDescription, placeholderBody,
      packageVersion, frameworkGit, frameworkSubdir, frameworkRev, packageAddress, ()) =>
    { witnessName := witnessName.getD builtIn.witnessName
      coinDecimals := coinDecimals.getD builtIn.coinDecimals
      coinSymbol := coinSymbol.getD builtIn.coinSymbol
      coinName := coinName.getD builtIn.coinName
      coinDescription := coinDescription.getD builtIn.coinDescription
      placeholderBody := placeholderBody.getD builtIn.placeholderBody
      packageVersion := packageVersion.getD builtIn.packageVersion
      frameworkGit := frameworkGit.getD builtIn.frameworkGit
      frameworkSubdir := frameworkSubdir.getD builtIn.frameworkSubdir
      frameworkRev := frameworkRev.getD builtIn.frameworkRev
      packageAddress := packageAddress.getD builtIn.packageAddress }

def toRecord (d : Defaults) : shape.Val :=
  (some d.witnessName, some d.coinDecimals, some d.coinSymbol, some d.coinName,
    some d.coinDescription, some d.placeholderBody, some d.packageVersion, some d.frameworkGit,
    some d.frameworkSubdir, some d.frameworkRev, some d.packageAddress, ())

theorem ofRecord_toRecord (d : Defaults) : ofRecord d.toRecord = d := rfl

def ofText (text : String) : Except DecodeError Defaults :=
  ofRecord <$> shape.ofText text

def toValue (d : Defaults) : Json :=
  shape.encode d.toRecord

end Defaults

end MoveCanvas

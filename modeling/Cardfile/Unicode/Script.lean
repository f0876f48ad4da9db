import Cardfile.Unicode.Runs

/-! # Scripts

Every code point has one script, named by a code of four letters, and some are also used with
other scripts, their script extensions.
-/

namespace Cardfile.Script

/-- The codes that a label runs together, four letters each. -/
def codes : List Char → List String
  | a :: b :: c :: d :: rest => String.ofList [a, b, c, d] :: codes rest
  | _ => []

def runs : Runs String := Runs.ofText String.ofList <| String.join [
    "1tZyyy qLatn 6Zyyy qLatn 1bZyyy 1Latn fZyyy 1Latn 5Zyyy nLatn 1Zyyy vLatn 1Zyyy chLatn 13Zyyy ",
    "5Latn 5Zyyy 2Bopo kZyyy 34Zinh 4Grek 1Zyyy 3Grek 2Zzzz 4Grek 1Zyyy 1Grek 4Zzzz 1Grek 1Zyyy ",
    "1Grek 1Zyyy 3Grek 1Zzzz 1Grek 1Zzzz kGrek 1Zzzz 1rGrek eCopt gGrek 3pCyrl 2Zinh 4pCyrl 1Zzzz ",
    "12Armn 2Zzzz 1eArmn 2Zzzz 3Armn 1Zzzz 1jHebr 8Zzzz rHebr 4Zzzz 6Hebr bZzzz 5Arab 1Zyyy 6Arab ",
    "1Zyyy eArab 1Zyyy 3Arab 1Zyyy wArab 1Zyyy aArab bZinh qArab 1Zinh 30Arab 1Zyyy yArab eSyrc ",
    "1Zzzz 1oSyrc 2Zzzz 3Syrc 1cArab 1eThaa eZzzz 1nNkoo 2Zzzz 3Nkoo 1aSamr 2Zzzz fSamr 1Zzzz ",
    "sMand 2Zzzz 1Mand 1Zzzz bSyrc 5Zzzz vArab 1Zzzz 2Arab 5Zzzz 1Zinh 22Arab 1Zyyy tArab 29Deva ",
    "4Zinh fDeva 2Zyyy qDeva 4Beng 1Zzzz 8Beng 2Zzzz 2Beng 2Zzzz mBeng 1Zzzz 7Beng 1Zzzz 1Beng ",
    "3Zzzz 4Beng 2Zzzz 9Beng 2Zzzz 2Beng 2Zzzz 4Beng 8Zzzz 1Beng 4Zzzz 2Beng 1Zzzz 5Beng 2Zzzz ",
    "pBeng 2Zzzz 3Guru 1Zzzz 6Guru 4Zzzz 2Guru 2Zzzz mGuru 1Zzzz 7Guru 1Zzzz 2Guru 1Zzzz 2Guru ",
    "1Zzzz 2Guru 2Zzzz 1Guru 1Zzzz 5Guru 4Zzzz 2Guru 2Zzzz 3Guru 3Zzzz 1Guru 7Zzzz 4Guru 1Zzzz ",
    "1Guru 7Zzzz hGuru aZzzz 3Gujr 1Zzzz 9Gujr 1Zzzz 3Gujr 1Zzzz mGujr 1Zzzz 7Gujr 1Zzzz 2Gujr ",
    "1Zzzz 5Gujr 2Zzzz aGujr 1Zzzz 3Gujr 1Zzzz 3Gujr 2Zzzz 1Gujr fZzzz 4Gujr 2Zzzz cGujr 7Zzzz ",
    "7Gujr 1Zzzz 3Orya 1Zzzz 8Orya 2Zzzz 2Orya 2Zzzz mOrya 1Zzzz 7Orya 1Zzzz 2Orya 1Zzzz 5Orya ",
    "2Zzzz 9Orya 2Zzzz 2Orya 2Zzzz 3Orya 7Zzzz 3Orya 4Zzzz 2Orya 1Zzzz 5Orya 2Zzzz iOrya aZzzz ",
    "2Taml 1Zzzz 6Taml 3Zzzz 3Taml 1Zzzz 4Taml 3Zzzz 2Taml 1Zzzz 1Taml 1Zzzz 2Taml 3Zzzz 2Taml ",
    "3Zzzz 3Taml 3Zzzz cTaml 4Zzzz 5Taml 3Zzzz 3Taml 1Zzzz 4Taml 2Zzzz 1Taml 6Zzzz 1Taml eZzzz ",
    "lTaml 5Zzzz dTelu 1Zzzz 3Telu 1Zzzz nTelu 1Zzzz gTelu 2Zzzz 9Telu 1Zzzz 3Telu 1Zzzz 4Telu ",
    "7Zzzz 2Telu 1Zzzz 3Telu 2Zzzz 1Telu 2Zzzz 4Telu 2Zzzz aTelu 7Zzzz 9Telu dKnda 1Zzzz 3Knda ",
    "1Zzzz nKnda 1Zzzz aKnda 1Zzzz 5Knda 2Zzzz 9Knda 1Zzzz 3Knda 1Zzzz 4Knda 7Zzzz 2Knda 6Zzzz ",
    "2Knda 1Zzzz 4Knda 2Zzzz aKnda 1Zzzz 3Knda cZzzz dMlym 1Zzzz 3Mlym 1Zzzz 1fMlym 1Zzzz 3Mlym ",
    "1Zzzz 6Mlym 4Zzzz gMlym 2Zzzz qMlym 1Zzzz 3Sinh 1Zzzz iSinh 3Zzzz oSinh 1Zzzz 9Sinh 1Zzzz ",
    "1Sinh 2Zzzz 7Sinh 3Zzzz 1Sinh 4Zzzz 6Sinh 1Zzzz 1Sinh 1Zzzz 8Sinh 6Zzzz aSinh 2Zzzz 3Sinh ",
    "cZzzz 1mThai 4Zzzz 1Zyyy sThai 11Zzzz 2Laoo 1Zzzz 1Laoo 1Zzzz 5Laoo 1Zzzz oLaoo 1Zzzz 1Laoo ",
    "1Zzzz nLaoo 2Zzzz 5Laoo 1Zzzz 1Laoo 1Zzzz 7Laoo 1Zzzz aLaoo 2Zzzz 4Laoo wZzzz 20Tibt 1Zzzz ",
    "10Tibt 4Zzzz 13Tibt 1Zzzz 10Tibt 1Zzzz fTibt 1Zzzz 7Tibt 4Zyyy 2Tibt 11Zzzz 4gMymr 12Geor ",
    "1Zzzz 1Geor 5Zzzz 1Geor 2Zzzz 17Geor 1Zyyy 4Geor 74Hang 21Ethi 1Zzzz 4Ethi 2Zzzz 7Ethi 1Zzzz ",
    "1Ethi 1Zzzz 4Ethi 2Zzzz 15Ethi 1Zzzz 4Ethi 2Zzzz xEthi 1Zzzz 4Ethi 2Zzzz 7Ethi 1Zzzz 1Ethi ",
    "1Zzzz 4Ethi 2Zzzz fEthi 1Zzzz 1lEthi 1Zzzz 4Ethi 2Zzzz 1vEthi 2Zzzz wEthi 3Zzzz qEthi 6Zzzz ",
    "2eCher 2Zzzz 6Cher 2Zzzz hsCans tOgam 3Zzzz 23Runr 3Zyyy bRunr 7Zzzz mTglg 9Zzzz 1Tglg lHano ",
    "2Zyyy 9Zzzz kBuhd cZzzz dTagb 1Zzzz 3Tagb 1Zzzz 2Tagb cZzzz 2mKhmr 2Zzzz aKhmr 6Zzzz aKhmr ",
    "6Zzzz 2Mong 2Zyyy 1Mong 1Zyyy kMong 6Zzzz 2hMong 7Zzzz 17Mong 5Zzzz 1yCans aZzzz vLimb 1Zzzz ",
    "cLimb 4Zzzz cLimb 4Zzzz 1Limb 3Zzzz cLimb uTale 2Zzzz 5Tale bZzzz 18Talu 4Zzzz qTalu 6Zzzz ",
    "bTalu 3Zzzz 2Talu wKhmr sBugi 2Zzzz 2Bugi 1rLana 1Zzzz tLana 2Zzzz bLana 6Zzzz aLana 6Zzzz ",
    "eLana 2Zzzz vZinh 1dZzzz 25Bali 1Zzzz 2Zyyy 1bBali 1Zyyy 1sSund 1gBatk 8Zzzz 4Batk 1kLepc ",
    "3Zzzz fLepc 3Zzzz 3Lepc 1cOlck bCyrl 5Zzzz 17Geor 2Zzzz 3Geor 8Sund 8Zzzz 3Zinh 1Zyyy dZinh ",
    "1Zyyy 7Zinh 4Zyyy 1Zinh 6Zyyy 1Zinh 3Zyyy 2Zinh 1Zyyy 5Zzzz 12Latn 5Grek 1Cyrl 1dLatn 5Grek ",
    "4Latn 5Grek dLatn 1Cyrl 1yLatn 1Grek 1sZinh 74Latn mGrek 2Zzzz 6Grek 2Zzzz 12Grek 2Zzzz 6Grek ",
    "2Zzzz 8Grek 1Zzzz 1Grek 1Zzzz 1Grek 1Zzzz 1Grek 1Zzzz vGrek 2Zzzz 1hGrek 1Zzzz fGrek 1Zzzz ",
    "eGrek 2Zzzz 6Grek 1Zzzz jGrek 2Zzzz 3Grek 1Zzzz 9Grek 1Zzzz cZyyy 2Zinh 2fZyyy 1Zzzz bZyyy ",
    "1Latn 2Zzzz bZyyy 1Latn fZyyy 1Zzzz dLatn 3Zzzz xZyyy fZzzz xZinh fZzzz 12Zyyy 1Grek 3Zyyy ",
    "2Latn 6Zyyy 1Latn rZyyy 1Latn hZyyy 15Latn 3Zyyy 4Zzzz iiZyyy mZzzz bZyyy lZzzz psZyyy 74Brai ",
    "hgZyyy 2Zzzz wZyyy 1Zzzz 2xZyyy 2oGlag wLatn 38Copt 5Zzzz 7Copt 12Geor 1Zzzz 1Geor 5Zzzz ",
    "1Geor 2Zzzz 1kTfng 7Zzzz 2Tfng eZzzz 1Tfng nEthi 9Zzzz 7Ethi 1Zzzz 7Ethi 1Zzzz 7Ethi 1Zzzz ",
    "7Ethi 1Zzzz 7Ethi 1Zzzz 7Ethi 1Zzzz 7Ethi 1Zzzz 7Ethi 1Zzzz wCyrl 2mZyyy yZzzz qHani 1Zzzz ",
    "2hHani cZzzz 5yHani qZzzz lZyyy 1Hani 1Zyyy 1Hani pZyyy 9Hani 4Zinh 2Hang 8Zyyy 4Hani 4Zyyy ",
    "1Zzzz 2eHira 2Zzzz 2Zinh 2Zyyy 3Hira 1Zyyy 2iKana 2Zyyy 3Kana 5Zzzz 17Bopo 1Zzzz 2mHang 1Zzzz ",
    "gZyyy wBopo 12Zyyy 9Zzzz 1Zyyy gKana vHang 1Zzzz 1sZyyy vHang 29Zyyy 1bKana 1Zyyy 2gKana ",
    "4oZyyy 534Hani 1sZyyy g74Hani wdYiii 3Zzzz 1jYiii 9Zzzz 1cLisu 8cVaii kZzzz 2oCyrl 2gBamu ",
    "8Zzzz yZyyy 2uLatn 3Zyyy 1vLatn 2Zzzz 2Latn 1Zzzz 1Latn 1Zzzz 8Latn lZzzz eLatn 19Sylo 3Zzzz ",
    "aZyyy 6Zzzz 1kPhag 8Zzzz 1ySaur 8Zzzz cSaur 6Zzzz wDeva 1aKali 1Zyyy 1Kali 10Rjng bZzzz 1Rjng ",
    "tHang 3Zzzz 26Java 1Zzzz 1Zyyy aJava 4Zzzz 2Java vMymr 1Zzzz 1jCham 9Zzzz eCham 2Zzzz aCham ",
    "2Zzzz 4Cham wMymr 1vTavt oZzzz 5Tavt nMtei aZzzz 6Ethi 2Zzzz 6Ethi 2Zzzz 6Ethi 9Zzzz 7Ethi ",
    "1Zzzz 7Ethi 1Zzzz 17Latn 1Zyyy 9Latn 1Grek 4Latn 2Zyyy 4Zzzz 28Cher 1aMtei 2Zzzz aMtei 6Zzzz ",
    "8mcHang cZzzz nHang 4Zzzz 1dHang 6isZzzz a6Hani 2Zzzz 2yHani 12Zzzz 7Latn cZzzz 5Armn 5Zzzz ",
    "qHebr 1Zzzz 5Hebr 1Zzzz 1Hebr 1Zzzz 2Hebr 1Zzzz 2Hebr 1Zzzz aHebr 37Arab gZzzz a3Arab 2Zyyy ",
    "28Arab 2Zzzz 1iArab 7Zzzz 1Arab wZzzz gArab gZinh aZyyy 6Zzzz eZinh 2Cyrl zZyyy 1Zzzz jZyyy ",
    "1Zzzz 4Zyyy 4Zzzz 5Arab 1Zzzz 3rArab 2Zzzz 1Zyyy 1Zzzz wZyyy qLatn 6Zyyy qLatn bZyyy aKana ",
    "1Zyyy 19Kana 2Zyyy vHang 3Zzzz 6Hang 2Zzzz 6Hang 2Zzzz 6Hang 2Zzzz 3Hang 3Zzzz 7Zyyy 1Zzzz ",
    "7Zyyy aZzzz 5Zyyy 2Zzzz cLinb 1Zzzz qLinb 1Zzzz jLinb 1Zzzz 2Linb 1Zzzz fLinb 2Zzzz eLinb ",
    "yZzzz 3fLinb 5Zzzz 3Zyyy 4Zzzz 19Zyyy 3Zzzz 9Zyyy 27Grek 1Zzzz dZyyy 3Zzzz 1Grek 1bZzzz ",
    "19Zyyy 1Zinh 3mZzzz tLyci 3Zzzz 1dCari fZzzz 1Zinh rZyyy 4Zzzz 10Ital 9Zzzz 3Ital rGoth 5Zzzz ",
    "17Perm 5Zzzz uUgar 1Zzzz 1Ugar 10Xpeo 4Zzzz eXpeo 16Zzzz 28Dsrt 1cShaw uOsma 2Zzzz aOsma ",
    "6Zzzz 10Osge 4Zzzz 10Osge 4Zzzz 14Elba 8Zzzz 1gAghb bZzzz 1Aghb bVith 1Zzzz fVith 1Zzzz 7Vith ",
    "1Zzzz 2Vith 1Zzzz bVith 1Zzzz fVith 1Zzzz 7Vith 1Zzzz 2Vith 3Zzzz 1gTodr cZzzz 8nLina 9Zzzz ",
    "mLina aZzzz 8Lina oZzzz 6Latn 1Zzzz 16Latn 1Zzzz 9Latn 1xZzzz 6Cprt 2Zzzz 1Cprt 1Zzzz 18Cprt ",
    "1Zzzz 2Cprt 3Zzzz 1Cprt 2Zzzz 1Cprt mArmi 1Zzzz 9Armi wPalm vNbat 8Zzzz 9Nbat 1cZzzz jHatr ",
    "1Zzzz 2Hatr 5Zzzz 5Hatr sPhnx 3Zzzz 1Phnx qLydi 5Zzzz 1Lydi 1sZzzz wMero oMerc 4Zzzz kMerc ",
    "2Zzzz 1aMerc 4Khar 1Zzzz 2Khar 5Zzzz 8Khar 1Zzzz 3Khar 1Zzzz tKhar 2Zzzz 3Khar 4Zzzz aKhar ",
    "7Zzzz 9Khar 7Zzzz wSarb wNarb wZzzz 13Mani 4Zzzz cMani 9Zzzz 1iAvst 3Zzzz 7Avst mPrti 2Zzzz ",
    "8Prti jPhli 5Zzzz 8Phli iPhlp 7Zzzz 4Phlp cZzzz 7Phlp 28Zzzz 21Orkh 1jZzzz 1fHung dZzzz ",
    "1fHung 7Zzzz 6Hung 14Rohg 8Zzzz aRohg 6Zzzz 12Gara 3Zzzz tGara 8Zzzz 2Gara 5sZzzz vArab 1Zzzz ",
    "16Yezi 1Zzzz 3Yezi 2Zzzz 2Yezi gZzzz 3Zyyy 1jZzzz 1Zinh 3Arab 14Sogo 8Zzzz 16Sogd mZzzz qOugr ",
    "12Zzzz sChrs kZzzz nElym 9Zzzz 26Brah 4Zzzz 10Brah 9Zzzz 1Brah 1vKthi aZzzz 1Kthi 2Zzzz pSora ",
    "7Zzzz aSora 6Zzzz 1hCakm 1Zzzz iCakm 8Zzzz 13Mahj 9Zzzz 2oShrd 1Zzzz kSinh bZzzz iKhoj 1Zzzz ",
    "1bKhoj 1qZzzz 7Mult 1Zzzz 1Mult 1Zzzz 4Mult 1Zzzz fMult 1Zzzz bMult 6Zzzz 1nSind 5Zzzz aSind ",
    "6Zzzz 4Gran 1Zzzz 8Gran 2Zzzz 2Gran 2Zzzz mGran 1Zzzz 7Gran 1Zzzz 2Gran 1Zzzz 5Gran 1Zzzz ",
    "1Zinh 9Gran 2Zzzz 2Gran 2Zzzz 3Gran 2Zzzz 1Gran 6Zzzz 1Gran 5Zzzz 7Gran 2Zzzz 7Gran 3Zzzz ",
    "5Gran bZzzz aTutg 1Zzzz 1Tutg 2Zzzz 1Tutg 1Zzzz 12Tutg 1Zzzz aTutg 1Zzzz 1Tutg 2Zzzz 1Tutg ",
    "1Zzzz 4Tutg 1Zzzz aTutg 1Zzzz 2Tutg 8Zzzz 2Tutg tZzzz 2kNewa 1Zzzz 5Newa uZzzz 20Tirh 8Zzzz ",
    "aTirh 4mZzzz 1iSidd 2Zzzz 12Sidd yZzzz 1xModi bZzzz aModi 6Zzzz dMong jZzzz 1mTakr 6Zzzz ",
    "aTakr 6Zzzz kMymr sZzzz rAhom 2Zzzz fAhom 4Zzzz nAhom 55Zzzz 1oDogr 2sZzzz 2bWara cZzzz 1Wara ",
    "7Diak 2Zzzz 1Diak 2Zzzz 8Diak 1Zzzz 2Diak 1Zzzz uDiak 1Zzzz 2Diak 2Zzzz cDiak 9Zzzz aDiak ",
    "1yZzzz 8Nand 2Zzzz 1aNand 2Zzzz bNand rZzzz 20Zanb 8Zzzz 2bSoyo dZzzz gCans 1lPauc 7Zzzz ",
    "aDeva 52Zzzz ySunu eZzzz aSunu 6Zzzz 9Bhks 1Zzzz 19Bhks 1Zzzz eBhks aZzzz tBhks 3Zzzz wMarc ",
    "2Zzzz mMarc 1Zzzz eMarc 21Zzzz 7Gonm 1Zzzz 2Gonm 1Zzzz 18Gonm 3Zzzz 1Gonm 1Zzzz 2Gonm 1Zzzz ",
    "9Gonm 8Zzzz aGonm 6Zzzz 6Gong 1Zzzz 2Gong 1Zzzz 11Gong 1Zzzz 2Gong 1Zzzz 6Gong 7Zzzz aGong ",
    "8mZzzz pMaka 7Zzzz hKawi 1Zzzz 15Kawi 3Zzzz sKawi 1Zinh 2dZzzz 1Lisu fZzzz 1eTaml dZzzz 1Taml ",
    "pmXsux 2uZzzz 33Xsux 1Zzzz 5Xsux bZzzz 5gXsux 218Zzzz 2rCpmn dZzzz uuEgyp aZzzz 32zEgyp 5Zzzz ",
    "g7Hluw 5a1Zzzz 1mGukh 1c6Zzzz ftBamu 7Zzzz vMroo 1Zzzz aMroo 4Zzzz 2Mroo 27Tnsa 1Zzzz aTnsa ",
    "6Zzzz uBass 2Zzzz 6Bass aZzzz 1yHmng aZzzz aHmng 1Zzzz 7Hmng 1Zzzz lHmng 5Zzzz jHmng c0Zzzz ",
    "1mKrai 5iZzzz 2jMedf 2tZzzz 23Plrd 4Zzzz 1lPlrd 7Zzzz hPlrd 1sZzzz 1Tang 1Nshu 2Hani 1Kits ",
    "bZzzz 2Hani eZzzz 4qgTang 8Zzzz lcTang d2Kits 15Zzzz 1Zyyy 9Tang 6w7Zzzz 4Kana 1Zzzz 7Kana ",
    "1Zzzz 2Kana 1Zzzz 1Kana 7zHira 3Kana fZzzz 1Hira tZzzz 3Hira 2Zzzz 1Kana eZzzz 4Kana 8Zzzz ",
    "b0Nshu 1s4Zzzz 2zDupl 5Zzzz dDupl 3Zzzz 9Dupl 7Zzzz aDupl 2Zzzz 4Dupl 4Zyyy 318Zzzz 6yZyyy ",
    "6Zzzz c4Zyyy 24Zzzz 1aZinh 2Zzzz nZinh 9Zzzz 38Zyyy 1oZzzz 6uZyyy aZzzz 13Zyyy 2Zzzz 1qZyyy ",
    "3Zinh hZyyy 8Zinh 2Zyyy 7Zinh uZyyy 4Zinh 1pZyyy lZzzz 1yGrek 3eZzzz kZyyy cZzzz kZyyy cZzzz ",
    "2fZyyy 9Zzzz pZyyy 3rZzzz 2dZyyy 1Zzzz 1zZyyy 1Zzzz 2Zyyy 2Zzzz 1Zyyy 2Zzzz 2Zyyy 2Zzzz 4Zyyy ",
    "1Zzzz cZyyy 1Zzzz 1Zyyy 1Zzzz 7Zyyy 1Zzzz 1tZyyy 1Zzzz 4Zyyy 2Zzzz 8Zyyy 1Zzzz 7Zyyy 1Zzzz ",
    "sZyyy 1Zzzz 4Zyyy 1Zzzz 5Zyyy 1Zzzz 1Zyyy 3Zzzz 7Zyyy 1Zzzz 9gZyyy 2Zzzz 84Zyyy 2Zzzz 1eZyyy ",
    "i4Sgnw fZzzz 5Sgnw 1Zzzz fSgnw uoZzzz vLatn 6Zzzz 6Latn 5xZzzz 7Glag 1Zzzz hGlag 2Zzzz 7Glag ",
    "1Zzzz 2Glag 1Zzzz 5Glag 5Zzzz 1qCyrl xZzzz 1Cyrl 34Zzzz 19Hmnp 3Zzzz eHmnp 2Zzzz aHmnp 4Zzzz ",
    "2Hmnp 8wZzzz vToto hZzzz 1mWcho 5Zzzz 1Wcho cwZzzz 16Nagm 5yZzzz 17Onao 4Zzzz 1Onao dcZzzz ",
    "7Ethi 1Zzzz 4Ethi 1Zzzz 2Ethi 1Zzzz fEthi 1Zzzz 5hMend 2Zzzz gMend 15Zzzz 24Adlm 4Zzzz aAdlm ",
    "4Zzzz 2Adlm ltZzzz 1wZyyy 24Zzzz 1pZyyy 5eZzzz 4Arab 1Zzzz rArab 1Zzzz 2Arab 1Zzzz 1Arab ",
    "2Zzzz 1Arab 1Zzzz aArab 1Zzzz 4Arab 1Zzzz 1Arab 1Zzzz 1Arab 6Zzzz 1Arab 4Zzzz 1Arab 1Zzzz ",
    "1Arab 1Zzzz 1Arab 1Zzzz 3Arab 1Zzzz 2Arab 1Zzzz 1Arab 2Zzzz 1Arab 1Zzzz 1Arab 1Zzzz 1Arab ",
    "1Zzzz 1Arab 1Zzzz 1Arab 1Zzzz 2Arab 1Zzzz 1Arab 2Zzzz 4Arab 1Zzzz 7Arab 1Zzzz 4Arab 1Zzzz ",
    "4Arab 1Zzzz 1Arab 1Zzzz aArab 1Zzzz hArab 5Zzzz 3Arab 1Zzzz 5Arab 1Zzzz hArab 1gZzzz 2Arab ",
    "7iZzzz 18Zyyy 4Zzzz 2sZyyy cZzzz fZyyy 2Zzzz fZyyy 1Zzzz fZyyy 1Zzzz 11Zyyy aZzzz 4uZyyy ",
    "1kZzzz qZyyy 1Hira 2Zyyy dZzzz 18Zyyy 4Zzzz 9Zyyy 7Zzzz 2Zyyy eZzzz 6Zyyy 4aZzzz rcZyyy 4Zzzz ",
    "hZyyy 3Zzzz dZyyy 3Zzzz 3bZyyy 4Zzzz 2nZyyy 6Zzzz cZyyy 4Zzzz 1Zyyy fZzzz cZyyy 4Zzzz 1kZyyy ",
    "8Zzzz aZyyy 6Zzzz 14Zyyy 8Zzzz uZyyy 2Zzzz cZyyy 4Zzzz 2Zyyy 1qZzzz 9gZyyy cZzzz eZyyy 2Zzzz ",
    "dZyyy 3Zzzz aZyyy 5Zzzz 1kZyyy 7Zzzz fZyyy 2Zzzz bZyyy 6Zzzz 9Zyyy 7Zzzz 43Zyyy 1Zzzz 2uZyyy ",
    "smZzzz wyoHani wZzzz 37eHani 6Zzzz 66Hani 2Zzzz 4g2Hani eZzzz 5rlHani fZzzz haHani 1wiZzzz ",
    "f2Hani 15uZzzz 3t7Hani 5Zzzz 38gHani f975Zzzz 1Zyyy uZzzz 2oZyyy 3kZzzz 6oZinh 47bkZzzz"]

/-- `None` stands where the extensions of a code point are its own script. -/
def extensionRuns : Runs (List String) := Runs.ofText codes <| String.join [
    "n6None 1Grek 2None 1Grek tNone dLatn 7nNone 1CyrlPerm 1CyrlGlag 2CyrlLatn 1CyrlGlag asNone ",
    "1ArabNkooRohgSyrcThaaYezi eNone 1ArabNkooRohgSyrcThaaYezi 1ArabSyrcThaa 2None ",
    "1AdlmArabNkooRohgSyrcThaaYezi wNone 1AdlmArabMandManiOugrPhlpRohgSogdSyrc aNone bArabSyrc ",
    "aNone aArabThaaYezi 6None 1ArabSyrc 2rNone 1ArabRohg hoNone ",
    "1BengDevaGranGujrGuruKndaLatnMlymOryaShrdTamlTeluTirh ",
    "1BengDevaGranGujrGuruKndaLatnMlymOryaTamlTeluTirh hNone ",
    "1BengDevaDogrGongGonmGranGujrGuruKndaMahjMlymNandOryaSindSinhSyloTakrTamlTeluTirh ",
    "1BengDevaDogrGongGonmGranGujrGuruKndaLimbMahjMlymNandOryaSindSinhSyloTakrTamlTeluTirh ",
    "aDevaDogrKthiMahj 3aNone aBengCakmSylo 3aNone aGuruMult 3aNone aGujrKhoj 6uNone eGranTaml ",
    "6qNone aKndaNand nkNone aCakmMymrTale 4xNone 1GeorLatn 189None 2BuhdHanoTagbTglg 5nNone ",
    "2MongPhag 1None 1MongPhag y2None 1BengDevaGranKnda 1Deva 1BengDevaGranKnda 1DevaGran 1Deva ",
    "2BengDeva 1DevaShrd 1BengDeva 1DevaShrd 1DevaKndaMlymOryaTamlTelu 1Deva 2DevaShrd 2Deva ",
    "1DevaShrd 1BengDeva 7Deva 1DevaNand 1BengDeva 2Deva 1BengDeva 4Deva ",
    "1BengDevaGranKndaNandOryaTeluTirh 1DevaGran 1DevaGranKnda 2BengDeva 1Beng 2DevaGran 1Nand ",
    "5hNone 2Grek 1iNone 1CyrlSyrc 1None 1Syrc foNone 1LatnMong 5cNone 1DevaGranLatn 2mqNone ",
    "1CyrlGlag cdNone 2BopoHangHaniHiraKanaYiii 1BopoHangHaniHiraKana 2None 1Hani 1None ",
    "aBopoHangHaniHiraKanaYiii 1None 1BopoHangHaniHiraKana 8BopoHangHaniHiraKanaYiii ",
    "4BopoHangHaniHiraKana aNone 4BopoHani 2None 1BopoHangHaniHiraKana 5HiraKana 1None ",
    "1BopoHangHaniHiraKana 4None 2HaniHiraKana 2Hani 2hNone 4HiraKana 3None 1HiraKana 2iNone ",
    "1BopoHangHaniHiraKanaYiii 1HiraKana 43None gHani wNone 10Hani 1oNone 14Hani 1kNone 1dHani ",
    "fNone cHani 1fNone 1Hani 2gNone pHani aNone 5Hani 2oNone vHani mlsNone 1CyrlGlag 40None ",
    "8HaniLatn 88None 3DevaDogrGujrGuruKhojKndaKthiMahjMlymModiNandSindTakrTirh ",
    "3DevaDogrGujrGuruKhojKndaKthiMahjModiNandSindTakrTirh ",
    "4DevaDogrGujrGuruKhojKthiMahjModiSindTakrTirh 53None 1BengDeva 1None 1DevaTaml 1mNone ",
    "1KaliLatnMymr 4gNone 1BugiJava ghaNone 2ArabNkoo 4yNone 1ArabThaa aNone 1ArabThaa 1zNone ",
    "2BopoHangHaniHiraKana 7uNone 5BopoHangHaniHiraKanaYiii aNone 1HiraKana 19None 2HiraKana ",
    "9sNone 2CpmnCprtLinb 1CprtLinb 4None 19CprtLinaLinb 3None 9CprtLinb bkNone sArabCopt 1kmNone ",
    "1ManiOugr 1laNone 1GranTaml 1None 1GranTaml 1jNone 2GranTaml 2hfNone 2GranTaml 1None ",
    "1GranTaml uz0None 4Dupl 4hoNone iHani 63iNone 2Hani l57yNone"]

/-- Codes of the scripts, each before the longer name. -/
def names : List (String × String) := [
    ("Adlm", "Adlam"),
    ("Ahom", "Ahom"),
    ("Hluw", "Anatolian_Hieroglyphs"),
    ("Arab", "Arabic"),
    ("Armn", "Armenian"),
    ("Avst", "Avestan"),
    ("Bali", "Balinese"),
    ("Bamu", "Bamum"),
    ("Bass", "Bassa_Vah"),
    ("Batk", "Batak"),
    ("Beng", "Bengali"),
    ("Bhks", "Bhaiksuki"),
    ("Bopo", "Bopomofo"),
    ("Brah", "Brahmi"),
    ("Brai", "Braille"),
    ("Bugi", "Buginese"),
    ("Buhd", "Buhid"),
    ("Cans", "Canadian_Aboriginal"),
    ("Cari", "Carian"),
    ("Aghb", "Caucasian_Albanian"),
    ("Cakm", "Chakma"),
    ("Cham", "Cham"),
    ("Cher", "Cherokee"),
    ("Chrs", "Chorasmian"),
    ("Zyyy", "Common"),
    ("Copt", "Coptic"),
    ("Xsux", "Cuneiform"),
    ("Cprt", "Cypriot"),
    ("Cpmn", "Cypro_Minoan"),
    ("Cyrl", "Cyrillic"),
    ("Dsrt", "Deseret"),
    ("Deva", "Devanagari"),
    ("Diak", "Dives_Akuru"),
    ("Dogr", "Dogra"),
    ("Dupl", "Duployan"),
    ("Egyp", "Egyptian_Hieroglyphs"),
    ("Elba", "Elbasan"),
    ("Elym", "Elymaic"),
    ("Ethi", "Ethiopic"),
    ("Gara", "Garay"),
    ("Geor", "Georgian"),
    ("Glag", "Glagolitic"),
    ("Goth", "Gothic"),
    ("Gran", "Grantha"),
    ("Grek", "Greek"),
    ("Gujr", "Gujarati"),
    ("Gong", "Gunjala_Gondi"),
    ("Guru", "Gurmukhi"),
    ("Gukh", "Gurung_Khema"),
    ("Hani", "Han"),
    ("Hang", "Hangul"),
    ("Rohg", "Hanifi_Rohingya"),
    ("Hano", "Hanunoo"),
    ("Hatr", "Hatran"),
    ("Hebr", "Hebrew"),
    ("Hira", "Hiragana"),
    ("Armi", "Imperial_Aramaic"),
    ("Zinh", "Inherited"),
    ("Phli", "Inscriptional_Pahlavi"),
    ("Prti", "Inscriptional_Parthian"),
    ("Java", "Javanese"),
    ("Kthi", "Kaithi"),
    ("Knda", "Kannada"),
    ("Kana", "Katakana"),
    ("Kawi", "Kawi"),
    ("Kali", "Kayah_Li"),
    ("Khar", "Kharoshthi"),
    ("Kits", "Khitan_Small_Script"),
    ("Khmr", "Khmer"),
    ("Khoj", "Khojki"),
    ("Sind", "Khudawadi"),
    ("Krai", "Kirat_Rai"),
    ("Laoo", "Lao"),
    ("Latn", "Latin"),
    ("Lepc", "Lepcha"),
    ("Limb", "Limbu"),
    ("Lina", "Linear_A"),
    ("Linb", "Linear_B"),
    ("Lisu", "Lisu"),
    ("Lyci", "Lycian"),
    ("Lydi", "Lydian"),
    ("Mahj", "Mahajani"),
    ("Maka", "Makasar"),
    ("Mlym", "Malayalam"),
    ("Mand", "Mandaic"),
    ("Mani", "Manichaean"),
    ("Marc", "Marchen"),
    ("Gonm", "Masaram_Gondi"),
    ("Medf", "Medefaidrin"),
    ("Mtei", "Meetei_Mayek"),
    ("Mend", "Mende_Kikakui"),
    ("Merc", "Meroitic_Cursive"),
    ("Mero", "Meroitic_Hieroglyphs"),
    ("Plrd", "Miao"),
    ("Modi", "Modi"),
    ("Mong", "Mongolian"),
    ("Mroo", "Mro"),
    ("Mult", "Multani"),
    ("Mymr", "Myanmar"),
    ("Nbat", "Nabataean"),
    ("Nagm", "Nag_Mundari"),
    ("Nand", "Nandinagari"),
    ("Talu", "New_Tai_Lue"),
    ("Newa", "Newa"),
    ("Nkoo", "Nko"),
    ("Nshu", "Nushu"),
    ("Hmnp", "Nyiakeng_Puachue_Hmong"),
    ("Ogam", "Ogham"),
    ("Olck", "Ol_Chiki"),
    ("Onao", "Ol_Onal"),
    ("Hung", "Old_Hungarian"),
    ("Ital", "Old_Italic"),
    ("Narb", "Old_North_Arabian"),
    ("Perm", "Old_Permic"),
    ("Xpeo", "Old_Persian"),
    ("Sogo", "Old_Sogdian"),
    ("Sarb", "Old_South_Arabian"),
    ("Orkh", "Old_Turkic"),
    ("Ougr", "Old_Uyghur"),
    ("Orya", "Oriya"),
    ("Osge", "Osage"),
    ("Osma", "Osmanya"),
    ("Hmng", "Pahawh_Hmong"),
    ("Palm", "Palmyrene"),
    ("Pauc", "Pau_Cin_Hau"),
    ("Phag", "Phags_Pa"),
    ("Phnx", "Phoenician"),
    ("Phlp", "Psalter_Pahlavi"),
    ("Rjng", "Rejang"),
    ("Runr", "Runic"),
    ("Samr", "Samaritan"),
    ("Saur", "Saurashtra"),
    ("Shrd", "Sharada"),
    ("Shaw", "Shavian"),
    ("Sidd", "Siddham"),
    ("Sgnw", "SignWriting"),
    ("Sinh", "Sinhala"),
    ("Sogd", "Sogdian"),
    ("Sora", "Sora_Sompeng"),
    ("Soyo", "Soyombo"),
    ("Sund", "Sundanese"),
    ("Sunu", "Sunuwar"),
    ("Sylo", "Syloti_Nagri"),
    ("Syrc", "Syriac"),
    ("Tglg", "Tagalog"),
    ("Tagb", "Tagbanwa"),
    ("Tale", "Tai_Le"),
    ("Lana", "Tai_Tham"),
    ("Tavt", "Tai_Viet"),
    ("Takr", "Takri"),
    ("Taml", "Tamil"),
    ("Tnsa", "Tangsa"),
    ("Tang", "Tangut"),
    ("Telu", "Telugu"),
    ("Thaa", "Thaana"),
    ("Thai", "Thai"),
    ("Tibt", "Tibetan"),
    ("Tfng", "Tifinagh"),
    ("Tirh", "Tirhuta"),
    ("Todr", "Todhri"),
    ("Toto", "Toto"),
    ("Tutg", "Tulu_Tigalari"),
    ("Ugar", "Ugaritic"),
    ("Zzzz", "Unknown"),
    ("Vaii", "Vai"),
    ("Vith", "Vithkuqi"),
    ("Wcho", "Wancho"),
    ("Wara", "Warang_Citi"),
    ("Yezi", "Yezidi"),
    ("Yiii", "Yi"),
    ("Zanb", "Zanabazar_Square")]

def code (c : Char) : String := runs.get c "Zzzz"

def extensions (c : Char) : List String :=
  match extensionRuns.get c ["None"] with
  | ["None"] => [code c]
  | found => found

end Cardfile.Script

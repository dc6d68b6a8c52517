import JobExpansion.Text.Runs

/-!
# Scripts

Every code point belongs to one script, named by four letters; some are used with further
scripts, which the extensions list.
-/

namespace JobExpansion.Text

/-- The script of each code point. -/
def scripts : RunMap := RunMap.read [
    "Zyyy:41 Latn:1a Zyyy:6 Latn:1a Zyyy:2f Latn:1 Zyyy:f Latn:1 Zyyy:5 Latn:17 Zyyy:1",
    "Latn:1f Zyyy:1 Latn:1c1 Zyyy:27 Latn:5 Zyyy:5 Bopo:2 Zyyy:14 Zinh:70 Grek:4 Zyyy:1",
    "Grek:3 Zzzz:2 Grek:4 Zyyy:1 Grek:1 Zzzz:4 Grek:1 Zyyy:1 Grek:1 Zyyy:1 Grek:3 Zzzz:1",
    "Grek:1 Zzzz:1 Grek:14 Zzzz:1 Grek:3f Copt:e Grek:10 Cyrl:85 Zinh:2 Cyrl:a9 Zzzz:1",
    "Armn:26 Zzzz:2 Armn:32 Zzzz:2 Armn:3 Zzzz:1 Hebr:37 Zzzz:8 Hebr:1b Zzzz:4 Hebr:6 Zzzz:b",
    "Arab:5 Zyyy:1 Arab:6 Zyyy:1 Arab:e Zyyy:1 Arab:3 Zyyy:1 Arab:20 Zyyy:1 Arab:a Zinh:b",
    "Arab:1a Zinh:1 Arab:6c Zyyy:1 Arab:22 Syrc:e Zzzz:1 Syrc:3c Zzzz:2 Syrc:3 Arab:30",
    "Thaa:32 Zzzz:e Nkoo:3b Zzzz:2 Nkoo:3 Samr:2e Zzzz:2 Samr:f Zzzz:1 Mand:1c Zzzz:2 Mand:1",
    "Zzzz:1 Syrc:b Zzzz:5 Arab:1f Zzzz:1 Arab:2 Zzzz:6 Arab:4a Zyyy:1 Arab:1d Deva:51 Zinh:4",
    "Deva:f Zyyy:2 Deva:1a Beng:4 Zzzz:1 Beng:8 Zzzz:2 Beng:2 Zzzz:2 Beng:16 Zzzz:1 Beng:7",
    "Zzzz:1 Beng:1 Zzzz:3 Beng:4 Zzzz:2 Beng:9 Zzzz:2 Beng:2 Zzzz:2 Beng:4 Zzzz:8 Beng:1",
    "Zzzz:4 Beng:2 Zzzz:1 Beng:5 Zzzz:2 Beng:19 Zzzz:2 Guru:3 Zzzz:1 Guru:6 Zzzz:4 Guru:2",
    "Zzzz:2 Guru:16 Zzzz:1 Guru:7 Zzzz:1 Guru:2 Zzzz:1 Guru:2 Zzzz:1 Guru:2 Zzzz:2 Guru:1",
    "Zzzz:1 Guru:5 Zzzz:4 Guru:2 Zzzz:2 Guru:3 Zzzz:3 Guru:1 Zzzz:7 Guru:4 Zzzz:1 Guru:1",
    "Zzzz:7 Guru:11 Zzzz:a Gujr:3 Zzzz:1 Gujr:9 Zzzz:1 Gujr:3 Zzzz:1 Gujr:16 Zzzz:1 Gujr:7",
    "Zzzz:1 Gujr:2 Zzzz:1 Gujr:5 Zzzz:2 Gujr:a Zzzz:1 Gujr:3 Zzzz:1 Gujr:3 Zzzz:2 Gujr:1",
    "Zzzz:f Gujr:4 Zzzz:2 Gujr:c Zzzz:7 Gujr:7 Zzzz:1 Orya:3 Zzzz:1 Orya:8 Zzzz:2 Orya:2",
    "Zzzz:2 Orya:16 Zzzz:1 Orya:7 Zzzz:1 Orya:2 Zzzz:1 Orya:5 Zzzz:2 Orya:9 Zzzz:2 Orya:2",
    "Zzzz:2 Orya:3 Zzzz:7 Orya:3 Zzzz:4 Orya:2 Zzzz:1 Orya:5 Zzzz:2 Orya:12 Zzzz:a Taml:2",
    "Zzzz:1 Taml:6 Zzzz:3 Taml:3 Zzzz:1 Taml:4 Zzzz:3 Taml:2 Zzzz:1 Taml:1 Zzzz:1 Taml:2",
    "Zzzz:3 Taml:2 Zzzz:3 Taml:3 Zzzz:3 Taml:c Zzzz:4 Taml:5 Zzzz:3 Taml:3 Zzzz:1 Taml:4",
    "Zzzz:2 Taml:1 Zzzz:6 Taml:1 Zzzz:e Taml:15 Zzzz:5 Telu:d Zzzz:1 Telu:3 Zzzz:1 Telu:17",
    "Zzzz:1 Telu:10 Zzzz:2 Telu:9 Zzzz:1 Telu:3 Zzzz:1 Telu:4 Zzzz:7 Telu:2 Zzzz:1 Telu:3",
    "Zzzz:2 Telu:1 Zzzz:2 Telu:4 Zzzz:2 Telu:a Zzzz:7 Telu:9 Knda:d Zzzz:1 Knda:3 Zzzz:1",
    "Knda:17 Zzzz:1 Knda:a Zzzz:1 Knda:5 Zzzz:2 Knda:9 Zzzz:1 Knda:3 Zzzz:1 Knda:4 Zzzz:7",
    "Knda:2 Zzzz:6 Knda:2 Zzzz:1 Knda:4 Zzzz:2 Knda:a Zzzz:1 Knda:3 Zzzz:c Mlym:d Zzzz:1",
    "Mlym:3 Zzzz:1 Mlym:33 Zzzz:1 Mlym:3 Zzzz:1 Mlym:6 Zzzz:4 Mlym:10 Zzzz:2 Mlym:1a Zzzz:1",
    "Sinh:3 Zzzz:1 Sinh:12 Zzzz:3 Sinh:18 Zzzz:1 Sinh:9 Zzzz:1 Sinh:1 Zzzz:2 Sinh:7 Zzzz:3",
    "Sinh:1 Zzzz:4 Sinh:6 Zzzz:1 Sinh:1 Zzzz:1 Sinh:8 Zzzz:6 Sinh:a Zzzz:2 Sinh:3 Zzzz:c",
    "Thai:3a Zzzz:4 Zyyy:1 Thai:1c Zzzz:25 Laoo:2 Zzzz:1 Laoo:1 Zzzz:1 Laoo:5 Zzzz:1 Laoo:18",
    "Zzzz:1 Laoo:1 Zzzz:1 Laoo:17 Zzzz:2 Laoo:5 Zzzz:1 Laoo:1 Zzzz:1 Laoo:7 Zzzz:1 Laoo:a",
    "Zzzz:2 Laoo:4 Zzzz:20 Tibt:48 Zzzz:1 Tibt:24 Zzzz:4 Tibt:27 Zzzz:1 Tibt:24 Zzzz:1 Tibt:f",
    "Zzzz:1 Tibt:7 Zyyy:4 Tibt:2 Zzzz:25 Mymr:a0 Geor:26 Zzzz:1 Geor:1 Zzzz:5 Geor:1 Zzzz:2",
    "Geor:2b Zyyy:1 Geor:4 Hang:100 Ethi:49 Zzzz:1 Ethi:4 Zzzz:2 Ethi:7 Zzzz:1 Ethi:1 Zzzz:1",
    "Ethi:4 Zzzz:2 Ethi:29 Zzzz:1 Ethi:4 Zzzz:2 Ethi:21 Zzzz:1 Ethi:4 Zzzz:2 Ethi:7 Zzzz:1",
    "Ethi:1 Zzzz:1 Ethi:4 Zzzz:2 Ethi:f Zzzz:1 Ethi:39 Zzzz:1 Ethi:4 Zzzz:2 Ethi:43 Zzzz:2",
    "Ethi:20 Zzzz:3 Ethi:1a Zzzz:6 Cher:56 Zzzz:2 Cher:6 Zzzz:2 Cans:280 Ogam:1d Zzzz:3",
    "Runr:4b Zyyy:3 Runr:b Zzzz:7 Tglg:16 Zzzz:9 Tglg:1 Hano:15 Zyyy:2 Zzzz:9 Buhd:14 Zzzz:c",
    "Tagb:d Zzzz:1 Tagb:3 Zzzz:1 Tagb:2 Zzzz:c Khmr:5e Zzzz:2 Khmr:a Zzzz:6 Khmr:a Zzzz:6",
    "Mong:2 Zyyy:2 Mong:1 Zyyy:1 Mong:14 Zzzz:6 Mong:59 Zzzz:7 Mong:2b Zzzz:5 Cans:46 Zzzz:a",
    "Limb:1f Zzzz:1 Limb:c Zzzz:4 Limb:c Zzzz:4 Limb:1 Zzzz:3 Limb:c Tale:1e Zzzz:2 Tale:5",
    "Zzzz:b Talu:2c Zzzz:4 Talu:1a Zzzz:6 Talu:b Zzzz:3 Talu:2 Khmr:20 Bugi:1c Zzzz:2 Bugi:2",
    "Lana:3f Zzzz:1 Lana:1d Zzzz:2 Lana:b Zzzz:6 Lana:a Zzzz:6 Lana:e Zzzz:2 Zinh:1f Zzzz:31",
    "Bali:4d Zzzz:3 Bali:2f Zzzz:1 Sund:40 Batk:34 Zzzz:8 Batk:4 Lepc:38 Zzzz:3 Lepc:f Zzzz:3",
    "Lepc:3 Olck:30 Cyrl:b Zzzz:5 Geor:2b Zzzz:2 Geor:3 Sund:8 Zzzz:8 Zinh:3 Zyyy:1 Zinh:d",
    "Zyyy:1 Zinh:7 Zyyy:4 Zinh:1 Zyyy:6 Zinh:1 Zyyy:3 Zinh:2 Zyyy:1 Zzzz:5 Latn:26 Grek:5",
    "Cyrl:1 Latn:31 Grek:5 Latn:4 Grek:5 Latn:d Cyrl:1 Latn:46 Grek:1 Zinh:40 Latn:100",
    "Grek:16 Zzzz:2 Grek:6 Zzzz:2 Grek:26 Zzzz:2 Grek:6 Zzzz:2 Grek:8 Zzzz:1 Grek:1 Zzzz:1",
    "Grek:1 Zzzz:1 Grek:1 Zzzz:1 Grek:1f Zzzz:2 Grek:35 Zzzz:1 Grek:f Zzzz:1 Grek:e Zzzz:2",
    "Grek:6 Zzzz:1 Grek:13 Zzzz:2 Grek:3 Zzzz:1 Grek:9 Zzzz:1 Zyyy:c Zinh:2 Zyyy:57 Zzzz:1",
    "Zyyy:b Latn:1 Zzzz:2 Zyyy:b Latn:1 Zyyy:f Zzzz:1 Latn:d Zzzz:3 Zyyy:21 Zzzz:f Zinh:21",
    "Zzzz:f Zyyy:26 Grek:1 Zyyy:3 Latn:2 Zyyy:6 Latn:1 Zyyy:1b Latn:1 Zyyy:11 Latn:29 Zyyy:3",
    "Zzzz:4 Zyyy:29a Zzzz:16 Zyyy:b Zzzz:15 Zyyy:3a0 Brai:100 Zyyy:274 Zzzz:2 Zyyy:20 Zzzz:1",
    "Zyyy:69 Glag:60 Latn:20 Copt:74 Zzzz:5 Copt:7 Geor:26 Zzzz:1 Geor:1 Zzzz:5 Geor:1 Zzzz:2",
    "Tfng:38 Zzzz:7 Tfng:2 Zzzz:e Tfng:1 Ethi:17 Zzzz:9 Ethi:7 Zzzz:1 Ethi:7 Zzzz:1 Ethi:7",
    "Zzzz:1 Ethi:7 Zzzz:1 Ethi:7 Zzzz:1 Ethi:7 Zzzz:1 Ethi:7 Zzzz:1 Ethi:7 Zzzz:1 Cyrl:20",
    "Zyyy:5e Zzzz:22 Hani:1a Zzzz:1 Hani:59 Zzzz:c Hani:d6 Zzzz:1a Zyyy:15 Hani:1 Zyyy:1",
    "Hani:1 Zyyy:19 Hani:9 Zinh:4 Hang:2 Zyyy:8 Hani:4 Zyyy:4 Zzzz:1 Hira:56 Zzzz:2 Zinh:2",
    "Zyyy:2 Hira:3 Zyyy:1 Kana:5a Zyyy:2 Kana:3 Zzzz:5 Bopo:2b Zzzz:1 Hang:5e Zzzz:1 Zyyy:10",
    "Bopo:20 Zyyy:26 Zzzz:9 Zyyy:1 Kana:10 Hang:1f Zzzz:1 Zyyy:40 Hang:1f Zyyy:51 Kana:2f",
    "Zyyy:1 Kana:58 Zyyy:a8 Hani:19c0 Zyyy:40 Hani:5200 Yiii:48d Zzzz:3 Yiii:37 Zzzz:9",
    "Lisu:30 Vaii:12c Zzzz:14 Cyrl:60 Bamu:58 Zzzz:8 Zyyy:22 Latn:66 Zyyy:3 Latn:43 Zzzz:2",
    "Latn:2 Zzzz:1 Latn:1 Zzzz:1 Latn:8 Zzzz:15 Latn:e Sylo:2d Zzzz:3 Zyyy:a Zzzz:6 Phag:38",
    "Zzzz:8 Saur:46 Zzzz:8 Saur:c Zzzz:6 Deva:20 Kali:2e Zyyy:1 Kali:1 Rjng:24 Zzzz:b Rjng:1",
    "Hang:1d Zzzz:3 Java:4e Zzzz:1 Zyyy:1 Java:a Zzzz:4 Java:2 Mymr:1f Zzzz:1 Cham:37 Zzzz:9",
    "Cham:e Zzzz:2 Cham:a Zzzz:2 Cham:4 Mymr:20 Tavt:43 Zzzz:18 Tavt:5 Mtei:17 Zzzz:a Ethi:6",
    "Zzzz:2 Ethi:6 Zzzz:2 Ethi:6 Zzzz:9 Ethi:7 Zzzz:1 Ethi:7 Zzzz:1 Latn:2b Zyyy:1 Latn:9",
    "Grek:1 Latn:4 Zyyy:2 Zzzz:4 Cher:50 Mtei:2e Zzzz:2 Mtei:a Zzzz:6 Hang:2ba4 Zzzz:c",
    "Hang:17 Zzzz:4 Hang:31 Zzzz:2104 Hani:16e Zzzz:2 Hani:6a Zzzz:26 Latn:7 Zzzz:c Armn:5",
    "Zzzz:5 Hebr:1a Zzzz:1 Hebr:5 Zzzz:1 Hebr:1 Zzzz:1 Hebr:2 Zzzz:1 Hebr:2 Zzzz:1 Hebr:a",
    "Arab:73 Zzzz:10 Arab:16b Zyyy:2 Arab:50 Zzzz:2 Arab:36 Zzzz:7 Arab:1 Zzzz:20 Arab:10",
    "Zinh:10 Zyyy:a Zzzz:6 Zinh:e Cyrl:2 Zyyy:23 Zzzz:1 Zyyy:13 Zzzz:1 Zyyy:4 Zzzz:4 Arab:5",
    "Zzzz:1 Arab:87 Zzzz:2 Zyyy:1 Zzzz:1 Zyyy:20 Latn:1a Zyyy:6 Latn:1a Zyyy:b Kana:a Zyyy:1",
    "Kana:2d Zyyy:2 Hang:1f Zzzz:3 Hang:6 Zzzz:2 Hang:6 Zzzz:2 Hang:6 Zzzz:2 Hang:3 Zzzz:3",
    "Zyyy:7 Zzzz:1 Zyyy:7 Zzzz:a Zyyy:5 Zzzz:2 Linb:c Zzzz:1 Linb:1a Zzzz:1 Linb:13 Zzzz:1",
    "Linb:2 Zzzz:1 Linb:f Zzzz:2 Linb:e Zzzz:22 Linb:7b Zzzz:5 Zyyy:3 Zzzz:4 Zyyy:2d Zzzz:3",
    "Zyyy:9 Grek:4f Zzzz:1 Zyyy:d Zzzz:3 Grek:1 Zzzz:2f Zyyy:2d Zinh:1 Zzzz:82 Lyci:1d Zzzz:3",
    "Cari:31 Zzzz:f Zinh:1 Zyyy:1b Zzzz:4 Ital:24 Zzzz:9 Ital:3 Goth:1b Zzzz:5 Perm:2b Zzzz:5",
    "Ugar:1e Zzzz:1 Ugar:1 Xpeo:24 Zzzz:4 Xpeo:e Zzzz:2a Dsrt:50 Shaw:30 Osma:1e Zzzz:2",
    "Osma:a Zzzz:6 Osge:24 Zzzz:4 Osge:24 Zzzz:4 Elba:28 Zzzz:8 Aghb:34 Zzzz:b Aghb:1 Vith:b",
    "Zzzz:1 Vith:f Zzzz:1 Vith:7 Zzzz:1 Vith:2 Zzzz:1 Vith:b Zzzz:1 Vith:f Zzzz:1 Vith:7",
    "Zzzz:1 Vith:2 Zzzz:43 Lina:137 Zzzz:9 Lina:16 Zzzz:a Lina:8 Zzzz:18 Latn:6 Zzzz:1",
    "Latn:2a Zzzz:1 Latn:9 Zzzz:45 Cprt:6 Zzzz:2 Cprt:1 Zzzz:1 Cprt:2c Zzzz:1 Cprt:2 Zzzz:3",
    "Cprt:1 Zzzz:2 Cprt:1 Armi:16 Zzzz:1 Armi:9 Palm:20 Nbat:1f Zzzz:8 Nbat:9 Zzzz:30 Hatr:13",
    "Zzzz:1 Hatr:2 Zzzz:5 Hatr:5 Phnx:1c Zzzz:3 Phnx:1 Lydi:1a Zzzz:5 Lydi:1 Zzzz:40 Mero:20",
    "Merc:18 Zzzz:4 Merc:14 Zzzz:2 Merc:2e Khar:4 Zzzz:1 Khar:2 Zzzz:5 Khar:8 Zzzz:1 Khar:3",
    "Zzzz:1 Khar:1d Zzzz:2 Khar:3 Zzzz:4 Khar:a Zzzz:7 Khar:9 Zzzz:7 Sarb:20 Narb:20 Zzzz:20",
    "Mani:27 Zzzz:4 Mani:c Zzzz:9 Avst:36 Zzzz:3 Avst:7 Prti:16 Zzzz:2 Prti:8 Phli:13 Zzzz:5",
    "Phli:8 Phlp:12 Zzzz:7 Phlp:4 Zzzz:c Phlp:7 Zzzz:50 Orkh:49 Zzzz:37 Hung:33 Zzzz:d",
    "Hung:33 Zzzz:7 Hung:6 Rohg:28 Zzzz:8 Rohg:a Zzzz:126 Arab:1f Zzzz:1 Yezi:2a Zzzz:1",
    "Yezi:3 Zzzz:2 Yezi:2 Zzzz:4b Arab:3 Sogo:28 Zzzz:8 Sogd:2a Zzzz:16 Ougr:1a Zzzz:26",
    "Chrs:1c Zzzz:14 Elym:17 Zzzz:9 Brah:4e Zzzz:4 Brah:24 Zzzz:9 Brah:1 Kthi:43 Zzzz:a",
    "Kthi:1 Zzzz:2 Sora:19 Zzzz:7 Sora:a Zzzz:6 Cakm:35 Zzzz:1 Cakm:12 Zzzz:8 Mahj:27 Zzzz:9",
    "Shrd:60 Zzzz:1 Sinh:14 Zzzz:b Khoj:12 Zzzz:1 Khoj:2f Zzzz:3e Mult:7 Zzzz:1 Mult:1 Zzzz:1",
    "Mult:4 Zzzz:1 Mult:f Zzzz:1 Mult:b Zzzz:6 Sind:3b Zzzz:5 Sind:a Zzzz:6 Gran:4 Zzzz:1",
    "Gran:8 Zzzz:2 Gran:2 Zzzz:2 Gran:16 Zzzz:1 Gran:7 Zzzz:1 Gran:2 Zzzz:1 Gran:5 Zzzz:1",
    "Zinh:1 Gran:9 Zzzz:2 Gran:2 Zzzz:2 Gran:3 Zzzz:2 Gran:1 Zzzz:6 Gran:1 Zzzz:5 Gran:7",
    "Zzzz:2 Gran:7 Zzzz:3 Gran:5 Zzzz:8b Newa:5c Zzzz:1 Newa:5 Zzzz:1e Tirh:48 Zzzz:8 Tirh:a",
    "Zzzz:a6 Sidd:36 Zzzz:2 Sidd:26 Zzzz:22 Modi:45 Zzzz:b Modi:a Zzzz:6 Mong:d Zzzz:13",
    "Takr:3a Zzzz:6 Takr:a Zzzz:36 Ahom:1b Zzzz:2 Ahom:f Zzzz:4 Ahom:17 Zzzz:b9 Dogr:3c",
    "Zzzz:64 Wara:53 Zzzz:c Wara:1 Diak:7 Zzzz:2 Diak:1 Zzzz:2 Diak:8 Zzzz:1 Diak:2 Zzzz:1",
    "Diak:1e Zzzz:1 Diak:2 Zzzz:2 Diak:c Zzzz:9 Diak:a Zzzz:46 Nand:8 Zzzz:2 Nand:2e Zzzz:2",
    "Nand:b Zzzz:1b Zanb:48 Zzzz:8 Soyo:53 Zzzz:d Cans:10 Pauc:39 Zzzz:7 Deva:a Zzzz:f6",
    "Bhks:9 Zzzz:1 Bhks:2d Zzzz:1 Bhks:e Zzzz:a Bhks:1d Zzzz:3 Marc:20 Zzzz:2 Marc:16 Zzzz:1",
    "Marc:e Zzzz:49 Gonm:7 Zzzz:1 Gonm:2 Zzzz:1 Gonm:2c Zzzz:3 Gonm:1 Zzzz:1 Gonm:2 Zzzz:1",
    "Gonm:9 Zzzz:8 Gonm:a Zzzz:6 Gong:6 Zzzz:1 Gong:2 Zzzz:1 Gong:25 Zzzz:1 Gong:2 Zzzz:1",
    "Gong:6 Zzzz:7 Gong:a Zzzz:136 Maka:19 Zzzz:7 Kawi:11 Zzzz:1 Kawi:29 Zzzz:3 Kawi:1c",
    "Zzzz:56 Lisu:1 Zzzz:f Taml:32 Zzzz:d Taml:1 Xsux:39a Zzzz:66 Xsux:6f Zzzz:1 Xsux:5",
    "Zzzz:b Xsux:c4 Zzzz:a4c Cpmn:63 Zzzz:d Egyp:456 Zzzz:faa Hluw:247 Zzzz:21b9 Bamu:239",
    "Zzzz:7 Mroo:1f Zzzz:1 Mroo:a Zzzz:4 Mroo:2 Tnsa:4f Zzzz:1 Tnsa:a Zzzz:6 Bass:1e Zzzz:2",
    "Bass:6 Zzzz:a Hmng:46 Zzzz:a Hmng:a Zzzz:1 Hmng:7 Zzzz:1 Hmng:15 Zzzz:5 Hmng:13 Zzzz:2b0",
    "Medf:5b Zzzz:65 Plrd:4b Zzzz:4 Plrd:39 Zzzz:7 Plrd:11 Zzzz:40 Tang:1 Nshu:1 Hani:2",
    "Kits:1 Zzzz:b Hani:2 Zzzz:e Tang:17f8 Zzzz:8 Tang:300 Kits:1d6 Zzzz:2a Tang:9 Zzzz:22e7",
    "Kana:4 Zzzz:1 Kana:7 Zzzz:1 Kana:2 Zzzz:1 Kana:1 Hira:11f Kana:3 Zzzz:f Hira:1 Zzzz:1d",
    "Hira:3 Zzzz:2 Kana:1 Zzzz:e Kana:4 Zzzz:8 Nshu:18c Zzzz:904 Dupl:6b Zzzz:5 Dupl:d Zzzz:3",
    "Dupl:9 Zzzz:7 Dupl:a Zzzz:2 Dupl:4 Zyyy:4 Zzzz:125c Zinh:2e Zzzz:2 Zinh:17 Zzzz:9",
    "Zyyy:74 Zzzz:3c Zyyy:f6 Zzzz:a Zyyy:27 Zzzz:2 Zyyy:3e Zinh:3 Zyyy:11 Zinh:8 Zyyy:2",
    "Zinh:7 Zyyy:1e Zinh:4 Zyyy:3d Zzzz:15 Grek:46 Zzzz:7a Zyyy:14 Zzzz:c Zyyy:14 Zzzz:c",
    "Zyyy:57 Zzzz:9 Zyyy:19 Zzzz:87 Zyyy:55 Zzzz:1 Zyyy:47 Zzzz:1 Zyyy:2 Zzzz:2 Zyyy:1 Zzzz:2",
    "Zyyy:2 Zzzz:2 Zyyy:4 Zzzz:1 Zyyy:c Zzzz:1 Zyyy:1 Zzzz:1 Zyyy:7 Zzzz:1 Zyyy:41 Zzzz:1",
    "Zyyy:4 Zzzz:2 Zyyy:8 Zzzz:1 Zyyy:7 Zzzz:1 Zyyy:1c Zzzz:1 Zyyy:4 Zzzz:1 Zyyy:5 Zzzz:1",
    "Zyyy:1 Zzzz:3 Zyyy:7 Zzzz:1 Zyyy:154 Zzzz:2 Zyyy:124 Zzzz:2 Zyyy:32 Sgnw:28c Zzzz:f",
    "Sgnw:5 Zzzz:1 Sgnw:f Zzzz:450 Latn:1f Zzzz:6 Latn:6 Zzzz:d5 Glag:7 Zzzz:1 Glag:11 Zzzz:2",
    "Glag:7 Zzzz:1 Glag:2 Zzzz:1 Glag:5 Zzzz:5 Cyrl:3e Zzzz:21 Cyrl:1 Zzzz:70 Hmnp:2d Zzzz:3",
    "Hmnp:e Zzzz:2 Hmnp:a Zzzz:4 Hmnp:2 Zzzz:140 Toto:1f Zzzz:11 Wcho:3a Zzzz:5 Wcho:1",
    "Zzzz:1d0 Nagm:2a Zzzz:2e6 Ethi:7 Zzzz:1 Ethi:4 Zzzz:1 Ethi:2 Zzzz:1 Ethi:f Zzzz:1",
    "Mend:c5 Zzzz:2 Mend:10 Zzzz:29 Adlm:4c Zzzz:4 Adlm:a Zzzz:4 Adlm:2 Zzzz:311 Zyyy:44",
    "Zzzz:4c Zyyy:3d Zzzz:c2 Arab:4 Zzzz:1 Arab:1b Zzzz:1 Arab:2 Zzzz:1 Arab:1 Zzzz:2 Arab:1",
    "Zzzz:1 Arab:a Zzzz:1 Arab:4 Zzzz:1 Arab:1 Zzzz:1 Arab:1 Zzzz:6 Arab:1 Zzzz:4 Arab:1",
    "Zzzz:1 Arab:1 Zzzz:1 Arab:1 Zzzz:1 Arab:3 Zzzz:1 Arab:2 Zzzz:1 Arab:1 Zzzz:2 Arab:1",
    "Zzzz:1 Arab:1 Zzzz:1 Arab:1 Zzzz:1 Arab:1 Zzzz:1 Arab:1 Zzzz:1 Arab:2 Zzzz:1 Arab:1",
    "Zzzz:2 Arab:4 Zzzz:1 Arab:7 Zzzz:1 Arab:4 Zzzz:1 Arab:4 Zzzz:1 Arab:1 Zzzz:1 Arab:a",
    "Zzzz:1 Arab:11 Zzzz:5 Arab:3 Zzzz:1 Arab:5 Zzzz:1 Arab:11 Zzzz:34 Arab:2 Zzzz:10e",
    "Zyyy:2c Zzzz:4 Zyyy:64 Zzzz:c Zyyy:f Zzzz:2 Zyyy:f Zzzz:1 Zyyy:f Zzzz:1 Zyyy:25 Zzzz:a",
    "Zyyy:ae Zzzz:38 Zyyy:1a Hira:1 Zyyy:2 Zzzz:d Zyyy:2c Zzzz:4 Zyyy:9 Zzzz:7 Zyyy:2 Zzzz:e",
    "Zyyy:6 Zzzz:9a Zyyy:3d8 Zzzz:4 Zyyy:11 Zzzz:3 Zyyy:d Zzzz:3 Zyyy:77 Zzzz:4 Zyyy:5f",
    "Zzzz:6 Zyyy:c Zzzz:4 Zyyy:1 Zzzz:f Zyyy:c Zzzz:4 Zyyy:38 Zzzz:8 Zyyy:a Zzzz:6 Zyyy:28",
    "Zzzz:8 Zyyy:1e Zzzz:2 Zyyy:c Zzzz:4 Zyyy:2 Zzzz:3e Zyyy:154 Zzzz:c Zyyy:e Zzzz:2 Zyyy:d",
    "Zzzz:3 Zyyy:a Zzzz:5 Zyyy:38 Zzzz:7 Zyyy:f Zzzz:2 Zyyy:b Zzzz:6 Zyyy:9 Zzzz:7 Zyyy:93",
    "Zzzz:1 Zyyy:66 Zzzz:406 Hani:a6e0 Zzzz:20 Hani:103a Zzzz:6 Hani:de Zzzz:2 Hani:1682",
    "Zzzz:e Hani:1d31 Zzzz:f Hani:26e Zzzz:9a2 Hani:21e Zzzz:5e2 Hani:134b Zzzz:5 Hani:1060",
    "Zzzz:adc51 Zyyy:1 Zzzz:1e Zyyy:60 Zzzz:80 Zinh:f0 Zzzz:2fe10"]

/-- The code points whose scripts differ from their own one script, with all their scripts. -/
def scriptExtensions : List ((Nat × Nat) × List String) :=
  (tokens [
    "342=Grek 345=Grek 363-36f=Latn 483=Cyrl+Perm 484=Cyrl+Glag 485-486=Cyrl+Latn",
    "487=Cyrl+Glag 60c=Arab+Nkoo+Rohg+Syrc+Thaa+Yezi 61b=Arab+Nkoo+Rohg+Syrc+Thaa+Yezi",
    "61c=Arab+Syrc+Thaa 61f=Adlm+Arab+Nkoo+Rohg+Syrc+Thaa+Yezi",
    "640=Adlm+Arab+Mand+Mani+Ougr+Phlp+Rohg+Sogd+Syrc 64b-655=Arab+Syrc",
    "660-669=Arab+Thaa+Yezi 670=Arab+Syrc 6d4=Arab+Rohg",
    "951=Beng+Deva+Gran+Gujr+Guru+Knda+Latn+Mlym+Orya+Shrd+Taml+Telu+Tirh",
    "952=Beng+Deva+Gran+Gujr+Guru+Knda+Latn+Mlym+Orya+Taml+Telu+Tirh",
    "964=Beng+Deva+Dogr+Gong+Gonm+Gran+Gujr+Guru+Knda+Mahj+Mlym+Nand+Orya+Sind+Sinh+"
      ++ "Sylo+Takr+Taml+Telu+Tirh",
    "965=Beng+Deva+Dogr+Gong+Gonm+Gran+Gujr+Guru+Knda+Limb+Mahj+Mlym+Nand+Orya+Sind+Sinh+"
      ++ "Sylo+Takr+Taml+Telu+Tirh",
    "966-96f=Deva+Dogr+Kthi+Mahj 9e6-9ef=Beng+Cakm+Sylo a66-a6f=Guru+Mult ae6-aef=Gujr+Khoj",
    "be6-bf3=Gran+Taml ce6-cef=Knda+Nand 1040-1049=Cakm+Mymr+Tale 10fb=Geor+Latn",
    "1735-1736=Buhd+Hano+Tagb+Tglg 1802-1803=Mong+Phag 1805=Mong+Phag",
    "1cd0=Beng+Deva+Gran+Knda 1cd1=Deva 1cd2=Beng+Deva+Gran+Knda 1cd3=Deva+Gran 1cd4=Deva",
    "1cd5-1cd6=Beng+Deva 1cd7=Deva+Shrd 1cd8=Beng+Deva 1cd9=Deva+Shrd",
    "1cda=Deva+Knda+Mlym+Orya+Taml+Telu 1cdb=Deva 1cdc-1cdd=Deva+Shrd 1cde-1cdf=Deva",
    "1ce0=Deva+Shrd 1ce1=Beng+Deva 1ce2-1ce8=Deva 1ce9=Deva+Nand 1cea=Beng+Deva",
    "1ceb-1cec=Deva 1ced=Beng+Deva 1cee-1cf1=Deva",
    "1cf2=Beng+Deva+Gran+Knda+Nand+Orya+Telu+Tirh 1cf3=Deva+Gran 1cf4=Deva+Gran+Knda",
    "1cf5-1cf6=Beng+Deva 1cf7=Beng 1cf8-1cf9=Deva+Gran 1cfa=Nand 1dc0-1dc1=Grek",
    "1df8=Cyrl+Syrc 1dfa=Syrc 202f=Latn+Mong 20f0=Deva+Gran+Latn 2e43=Cyrl+Glag",
    "3001-3002=Bopo+Hang+Hani+Hira+Kana+Yiii 3003=Bopo+Hang+Hani+Hira+Kana 3006=Hani",
    "3008-3011=Bopo+Hang+Hani+Hira+Kana+Yiii 3013=Bopo+Hang+Hani+Hira+Kana",
    "3014-301b=Bopo+Hang+Hani+Hira+Kana+Yiii 301c-301f=Bopo+Hang+Hani+Hira+Kana",
    "302a-302d=Bopo+Hani 3030=Bopo+Hang+Hani+Hira+Kana 3031-3035=Hira+Kana",
    "3037=Bopo+Hang+Hani+Hira+Kana 303c-303d=Hani+Hira+Kana 303e-303f=Hani",
    "3099-309c=Hira+Kana 30a0=Hira+Kana 30fb=Bopo+Hang+Hani+Hira+Kana+Yiii 30fc=Hira+Kana",
    "3190-319f=Hani 31c0-31e3=Hani 3220-3247=Hani 3280-32b0=Hani 32c0-32cb=Hani 32ff=Hani",
    "3358-3370=Hani 337b-337f=Hani 33e0-33fe=Hani a66f=Cyrl+Glag a700-a707=Hani+Latn",
    "a830-a832=Deva+Dogr+Gujr+Guru+Khoj+Knda+Kthi+Mahj+Mlym+Modi+Nand+Sind+Takr+Tirh",
    "a833-a835=Deva+Dogr+Gujr+Guru+Khoj+Knda+Kthi+Mahj+Modi+Nand+Sind+Takr+Tirh",
    "a836-a839=Deva+Dogr+Gujr+Guru+Khoj+Kthi+Mahj+Modi+Sind+Takr+Tirh a8f1=Beng+Deva",
    "a8f3=Deva+Taml a92e=Kali+Latn+Mymr a9cf=Bugi+Java fd3e-fd3f=Arab+Nkoo fdf2=Arab+Thaa",
    "fdfd=Arab+Thaa fe45-fe46=Bopo+Hang+Hani+Hira+Kana",
    "ff61-ff65=Bopo+Hang+Hani+Hira+Kana+Yiii ff70=Hira+Kana ff9e-ff9f=Hira+Kana",
    "10100-10101=Cpmn+Cprt+Linb 10102=Cprt+Linb 10107-10133=Cprt+Lina+Linb",
    "10137-1013f=Cprt+Linb 102e0-102fb=Arab+Copt 10af2=Mani+Ougr 11301=Gran+Taml",
    "11303=Gran+Taml 1133b-1133c=Gran+Taml 11fd0-11fd1=Gran+Taml 11fd3=Gran+Taml",
    "1bca0-1bca3=Dupl 1d360-1d371=Hani 1f250-1f251=Hani"]).filterMap fun token =>
    match token.splitOn "=" with
    | [range, names] => some (readRange range, names.splitOn "+")
    | _ => none

/-- The scripts with their other names, in lower case. -/
def scriptNames : List (String × List String) :=
  (tokens [
    "Adlm=adlam Aghb=caucasianalbanian Ahom Arab=arabic Armi=imperialaramaic Armn=armenian",
    "Avst=avestan Bali=balinese Bamu=bamum Bass=bassavah Batk=batak Beng=bengali",
    "Bhks=bhaiksuki Bopo=bopomofo Brah=brahmi Brai=braille Bugi=buginese Buhd=buhid",
    "Cakm=chakma Cans=canadianaboriginal Cari=carian Cham Cher=cherokee Chrs=chorasmian",
    "Copt=coptic+qaac Cpmn=cyprominoan Cprt=cypriot Cyrl=cyrillic Deva=devanagari",
    "Diak=divesakuru Dogr=dogra Dsrt=deseret Dupl=duployan Egyp=egyptianhieroglyphs",
    "Elba=elbasan Elym=elymaic Ethi=ethiopic Geor=georgian Glag=glagolitic Gong=gunjalagondi",
    "Gonm=masaramgondi Goth=gothic Gran=grantha Grek=greek Gujr=gujarati Guru=gurmukhi",
    "Hang=hangul Hani=han Hano=hanunoo Hatr=hatran Hebr=hebrew Hira=hiragana",
    "Hluw=anatolianhieroglyphs Hmng=pahawhhmong Hmnp=nyiakengpuachuehmong Hung=oldhungarian",
    "Ital=olditalic Java=javanese Kali=kayahli Kana=katakana Kawi Khar=kharoshthi Khmr=khmer",
    "Khoj=khojki Kits=khitansmallscript Knda=kannada Kthi=kaithi Lana=taitham Laoo=lao",
    "Latn=latin Lepc=lepcha Limb=limbu Lina=lineara Linb=linearb Lisu Lyci=lycian Lydi=lydian",
    "Mahj=mahajani Maka=makasar Mand=mandaic Mani=manichaean Marc=marchen Medf=medefaidrin",
    "Mend=mendekikakui Merc=meroiticcursive Mero=meroitichieroglyphs Mlym=malayalam Modi",
    "Mong=mongolian Mroo=mro Mtei=meeteimayek Mult=multani Mymr=myanmar Nagm=nagmundari",
    "Nand=nandinagari Narb=oldnortharabian Nbat=nabataean Newa Nkoo=nko Nshu=nushu Ogam=ogham",
    "Olck=olchiki Orkh=oldturkic Orya=oriya Osge=osage Osma=osmanya Ougr=olduyghur",
    "Palm=palmyrene Pauc=paucinhau Perm=oldpermic Phag=phagspa Phli=inscriptionalpahlavi",
    "Phlp=psalterpahlavi Phnx=phoenician Plrd=miao Prti=inscriptionalparthian Rjng=rejang",
    "Rohg=hanifirohingya Runr=runic Samr=samaritan Sarb=oldsoutharabian Saur=saurashtra",
    "Sgnw=signwriting Shaw=shavian Shrd=sharada Sidd=siddham Sind=khudawadi Sinh=sinhala",
    "Sogd=sogdian Sogo=oldsogdian Sora=sorasompeng Soyo=soyombo Sund=sundanese",
    "Sylo=sylotinagri Syrc=syriac Tagb=tagbanwa Takr=takri Tale=taile Talu=newtailue",
    "Taml=tamil Tang=tangut Tavt=taiviet Telu=telugu Tfng=tifinagh Tglg=tagalog Thaa=thaana",
    "Thai Tibt=tibetan Tirh=tirhuta Tnsa=tangsa Toto Ugar=ugaritic Vaii=vai Vith=vithkuqi",
    "Wara=warangciti Wcho=wancho Xpeo=oldpersian Xsux=cuneiform Yezi=yezidi Yiii=yi",
    "Zanb=zanabazarsquare Zinh=inherited+qaai Zyyy=common Zzzz=unknown"]).map fun token =>
    match token.splitOn "=" with
    | [short, long] => (short, long.splitOn "+")
    | _ => (token, [])

/-- The script meant by a name in lower case without blanks, hyphens or underscores. -/
def scriptNamed? (name : String) : Option String :=
  (scriptNames.find? fun (short, long) => short.toLower = name ∨ long.contains name).map (·.1)

/-- A code point is of a script. -/
def inScript (script : String) (n : Nat) : Bool := scripts.get n = script

/-- A code point is used with a script. -/
def usedWithScript (script : String) (n : Nat) : Bool :=
  match scriptExtensions.find? fun ((a, b), _) => a ≤ n ∧ n ≤ b with
  | some (_, names) => names.contains script
  | none => inScript script n

end JobExpansion.Text
